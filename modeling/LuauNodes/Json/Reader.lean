import LuauNodes.Json.Basic
import LuauNodes.Number.DigitLimit
import LuauNodes.Number.Reading

/-!
# Reading JSON

One value with white space around it.  A fault says what was expected and at
which character; its text counts lines and columns from one.  Beyond the
standard the reader knows the three names of the numbers that are not finite,
and the last entry of a repeated name wins.
-/

namespace LuauNodes.Json

open LuauNodes.Number

/-- What the reader wanted where it stopped. -/
inductive Expectation where
  | value
  | propertyName
  | colon
  | comma
  | endOfText
  | noByteOrderMark
  | closingQuote
  | noControlCharacter
  | escape
  | unicodeEscape

/-- The wording of an expectation that was not met. -/
def Expectation.message : Expectation → String
  | value => "Expecting value"
  | propertyName => "Expecting property name enclosed in double quotes"
  | colon => "Expecting ':' delimiter"
  | comma => "Expecting ',' delimiter"
  | endOfText => "Extra data"
  | noByteOrderMark => "Unexpected UTF-8 BOM (decode using utf-8-sig)"
  | closingQuote => "Unterminated string starting at"
  | noControlCharacter => "Invalid control character at"
  | escape => "Invalid \\escape"
  | unicodeEscape => "Invalid \\uXXXX escape"

/-- Why a text could not be read. -/
inductive ReadFault where
  | malformed (expected : Expectation) (position : Nat)
  | tooDeep (container : String)
  | tooManyDigits (count : Nat)

/-- The most containers that may stand inside one another. -/
def maxDepth : Nat := 980

/-- The line of a character, its column and its index, as faults give them. -/
def placeText (document : List Char) (position : Nat) : String :=
  let before := document.take position
  let line := (before.filter (· == '\n')).length + 1
  let column := (before.reverse.takeWhile (· != '\n')).length + 1
  s!"line {line} column {column} (char {position})"

/-- The wording of a fault in a document. -/
def ReadFault.message (document : List Char) : ReadFault → String
  | malformed expected position => expected.message ++ ": " ++ placeText document position
  | tooDeep container =>
    s!"maximum recursion depth exceeded while decoding a JSON {container} from a unicode string"
  | tooManyDigits count => digitLimitText count

/-- The unread characters and the index of the first of them. -/
structure Cursor where
  rest : List Char
  position : Nat

/-- Moves past a number of characters. -/
def Cursor.advance (cursor : Cursor) (count : Nat) : Cursor :=
  ⟨cursor.rest.drop count, cursor.position + count⟩

/-- White space between tokens. -/
def isSpace (c : Char) : Bool := c == ' ' || c == '\t' || c == '\n' || c == '\r'

/-- Moves past white space. -/
def Cursor.skipSpace (cursor : Cursor) : Cursor :=
  cursor.advance (cursor.rest.takeWhile isSpace).length

/-- The result of reading one part. -/
abbrev Read (α : Type) := Except ReadFault (α × Cursor)

/-- A fault at a cursor. -/
def expected {α : Type} (what : Expectation) (cursor : Cursor) : Read α :=
  .error (.malformed what cursor.position)

/-- The character that a one-letter escape stands for. -/
def escapeChar? : Char → Option Char
  | '"' => some '"'
  | '\\' => some '\\'
  | '/' => some '/'
  | 'b' => some (Char.ofNat 8)
  | 'f' => some (Char.ofNat 12)
  | 'n' => some '\n'
  | 'r' => some '\r'
  | 't' => some '\t'
  | _ => none

/-- Exactly four hexadecimal digits, as a number. -/
def fourHex? (text : List Char) : Option Nat :=
  let digits := text.take 4
  if digits.length = 4 && digits.all fun c => (Text.hexValue? c).isSome then
    some (Text.baseValue 16 digits)
  else none

/-- A first half of a surrogate pair. -/
def isHighSurrogate (code : Nat) : Bool := 0xd800 ≤ code && code < 0xdc00

/-- A second half of a surrogate pair. -/
def isLowSurrogate (code : Nat) : Bool := 0xdc00 ≤ code && code < 0xe000

/-- The character of a code point; a lone surrogate has none and gives the replacement
character. -/
def charOf (code : Nat) : Char :=
  if 0xd800 ≤ code && code < 0xe000 then Char.ofNat 0xfffd else Char.ofNat code

/-- The second half of a pair directly after its first half, which began six characters back. -/
def lowHalf? (after : List Char) : Option Nat :=
  match after with
  | '\\' :: 'u' :: digits =>
    if digits.length > 4 then (fourHex? digits).filter isLowSurrogate else none
  | _ => none

/-- A malformed second half directly after a first half. -/
def badLowHalf (after : List Char) : Bool :=
  match after with
  | '\\' :: 'u' :: digits => digits.length > 4 && (fourHex? digits).isNone
  | _ => false

/-- Reads up to the closing quote.  The cursor stands inside the string that began at `start`;
the characters read so far are in reverse. -/
def readString (start : Nat) : Nat → List Char → Cursor → Read String
  | 0, _, _ => .error (.malformed .closingQuote start)
  | fuel + 1, done, cursor =>
    match cursor.rest with
    | [] => .error (.malformed .closingQuote start)
    | '"' :: _ => .ok (String.ofList done.reverse, cursor.advance 1)
    | '\\' :: [] => .error (.malformed .closingQuote start)
    | '\\' :: 'u' :: digits =>
      if digits.length ≤ 4 then expected .unicodeEscape (cursor.advance 1)
      else
        match fourHex? digits with
        | none => expected .unicodeEscape (cursor.advance 1)
        | some code =>
          let after := cursor.advance 6
          if isHighSurrogate code then
            match lowHalf? after.rest with
            | some low =>
              let joined := 0x10000 + (code - 0xd800) * 0x400 + (low - 0xdc00)
              readString start fuel (Char.ofNat joined :: done) (after.advance 6)
            | none =>
              if badLowHalf after.rest then expected .unicodeEscape (after.advance 1)
              else readString start fuel (charOf code :: done) after
          else readString start fuel (charOf code :: done) after
    | '\\' :: letter :: _ =>
      match escapeChar? letter with
      | some c => readString start fuel (c :: done) (cursor.advance 2)
      | none => expected .escape cursor
    | c :: _ =>
      if c.toNat < 32 then expected .noControlCharacter cursor
      else readString start fuel (c :: done) (cursor.advance 1)

/-- The fraction of a number: a point with at least one digit after it. -/
def fractionLength (text : List Char) : Nat :=
  match text with
  | '.' :: digits =>
    let count := (digits.takeWhile isAsciiDigit).length
    if count = 0 then 0 else count + 1
  | _ => 0

/-- The exponent of a number: its mark, a sign, and at least one digit. -/
def exponentLength (text : List Char) : Nat :=
  match text with
  | mark :: rest =>
    if mark == 'e' || mark == 'E' then
      let signed :=
        match rest with
        | '-' :: _ => 1
        | '+' :: _ => 1
        | _ => 0
      let count := ((rest.drop signed).takeWhile isAsciiDigit).length
      if count = 0 then 0 else 1 + signed + count
    else 0
  | [] => 0

/-- A number: a sign, digits without a leading zero, a fraction and an exponent. -/
def readNumber (cursor : Cursor) : Read Json :=
  let negative := cursor.rest.head? == some '-'
  let body := if negative then cursor.rest.drop 1 else cursor.rest
  let whole :=
    match body with
    | '0' :: _ => ['0']
    | _ => body.takeWhile isAsciiDigit
  if whole.isEmpty then expected .value cursor
  else
    let afterWhole := body.drop whole.length
    let fraction := fractionLength afterWhole
    let exponent := exponentLength (afterWhole.drop fraction)
    let after := cursor.advance ((if negative then 1 else 0) + whole.length + fraction + exponent)
    if fraction = 0 && exponent = 0 then
      if whole.length > maxDigits then .error (.tooManyDigits whole.length)
      else
        let size : Int := (Text.digitsValue whole : Nat)
        .ok (.int (if negative then -size else size), after)
    else
      let power := (exponent? ((afterWhole.drop fraction).take exponent)).getD 0
      .ok (.float (ofParts negative whole ((afterWhole.take fraction).drop 1) power), after)

/-- The names of values, with what they stand for. -/
def namedValues : List (String × Json) :=
  [("null", .null), ("true", .bool true), ("false", .bool false), ("NaN", .float Binary64.nan),
   ("Infinity", .float (Binary64.infinity false)), ("-Infinity", .float (Binary64.infinity true))]

/-- A named value or a number. -/
def readScalar (cursor : Cursor) : Read Json :=
  match namedValues.find? fun named => named.1.toList.isPrefixOf cursor.rest with
  | some (name, value) => .ok (value, cursor.advance name.length)
  | none => readNumber cursor

mutual

/-- Reads one value; `depth` more containers may be opened. -/
def readValue : Nat → Nat → Cursor → Read Json
  | 0, _, cursor => expected .value cursor
  | fuel + 1, depth, cursor =>
    match cursor.rest with
    | '"' :: rest =>
      match readString cursor.position (rest.length + 1) [] (cursor.advance 1) with
      | .ok (value, after) => .ok (.text value, after)
      | .error fault => .error fault
    | '[' :: _ =>
      match depth with
      | 0 => .error (.tooDeep "array")
      | depth + 1 =>
        let inner := (cursor.advance 1).skipSpace
        if inner.rest.head? == some ']' then .ok (.list [], inner.advance 1)
        else readItems fuel depth [] inner
    | '{' :: _ =>
      match depth with
      | 0 => .error (.tooDeep "object")
      | depth + 1 =>
        let inner := (cursor.advance 1).skipSpace
        if inner.rest.head? == some '}' then .ok (.object [], inner.advance 1)
        else readEntries fuel depth [] inner
    | _ => readScalar cursor

/-- Reads the items of a list up to its closing bracket. -/
def readItems : Nat → Nat → List Json → Cursor → Read Json
  | 0, _, _, cursor => expected .value cursor
  | fuel + 1, depth, done, cursor =>
    match readValue fuel depth cursor with
    | .error fault => .error fault
    | .ok (item, after) =>
      let after := after.skipSpace
      match after.rest with
      | ']' :: _ => .ok (.list (item :: done).reverse, after.advance 1)
      | ',' :: _ => readItems fuel depth (item :: done) (after.advance 1).skipSpace
      | _ => expected .comma after

/-- Reads the entries of an object up to its closing brace. -/
def readEntries : Nat → Nat → List (String × Json) → Cursor → Read Json
  | 0, _, _, cursor => expected .value cursor
  | fuel + 1, depth, done, cursor =>
    match cursor.rest with
    | '"' :: rest =>
      match readString cursor.position (rest.length + 1) [] (cursor.advance 1) with
      | .error fault => .error fault
      | .ok (name, afterName) =>
        let afterName := afterName.skipSpace
        match afterName.rest with
        | ':' :: _ =>
          match readValue fuel depth (afterName.advance 1).skipSpace with
          | .error fault => .error fault
          | .ok (value, after) =>
            let after := after.skipSpace
            let done := putEntry name value done
            match after.rest with
            | '}' :: _ => .ok (.object done, after.advance 1)
            | ',' :: _ => readEntries fuel depth done (after.advance 1).skipSpace
            | _ => expected .comma after
        | _ => expected .colon afterName
    | _ => expected .propertyName cursor

end

/-- Reads a whole document. -/
def read (document : List Char) : Except ReadFault Json :=
  if document.head? == some (Char.ofNat 0xfeff) then .error (.malformed .noByteOrderMark 0)
  else
    match readValue (2 * document.length + 2) maxDepth (Cursor.skipSpace ⟨document, 0⟩) with
    | .error fault => .error fault
    | .ok (value, after) =>
      let after := after.skipSpace
      if after.rest.isEmpty then .ok value else .error (.malformed .endOfText after.position)

end LuauNodes.Json
