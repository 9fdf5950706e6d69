import LuauNodes.Identifier
import LuauNodes.Text.Digit

/-!
# Terminals of the expression grammar

The kinds of tokens, how each is named to users, and the texts that each
matches.  A match is always the longest one of its kind at the place where it
begins.
-/

namespace LuauNodes.Expression

open LuauNodes.Text

/-- A kind of token. -/
inductive Terminal where
  | name
  | number
  | string
  | openParen
  | closeParen
  | openBracket
  | closeBracket
  | openBrace
  | closeBrace
  | comma
  | semicolon
  | dot
  | colon
  | equals
  | comparison
  | concat
  | plus
  | minus
  | product
  | power
  | hash
  | andWord
  | orWord
  | notWord
  | nilWord
  | trueWord
  | falseWord
  | ifWord
  | thenWord
  | elseWord
  | elseifWord
  deriving DecidableEq, Inhabited

/-- The name of a terminal in messages to users. -/
def Terminal.description : Terminal → String
  | .name => "a variable or function name"
  | .number => "a number"
  | .string => "a string literal"
  | .openParen => "an opening parenthesis '('"
  | .closeParen => "a closing parenthesis ')'"
  | .openBracket => "an opening bracket '['"
  | .closeBracket => "a closing bracket ']'"
  | .openBrace => "an opening brace '\x7b'"
  | .closeBrace => "a closing brace '\x7d'"
  | .comma => "a comma ','"
  | .semicolon => "a semicolon ';'"
  | .dot => "a dot '.'"
  | .colon => "a colon ':'"
  | .equals => "an equals sign '='"
  | .comparison => "a comparison operator"
  | .concat => "the concatenation operator '..'"
  | .plus => "the operator '+'"
  | .minus => "the operator '-'"
  | .product => "an operator '*', '/', '//' or '%'"
  | .power => "the operator '^'"
  | .hash => "the length operator '#'"
  | .andWord => "the 'and' keyword"
  | .orWord => "the 'or' keyword"
  | .notWord => "the 'not' keyword"
  | .nilWord => "nil"
  | .trueWord => "true"
  | .falseWord => "false"
  | .ifWord => "the 'if' keyword"
  | .thenWord => "the 'then' keyword"
  | .elseWord => "the 'else' keyword"
  | .elseifWord => "the 'elseif' keyword"

/-- The white space that may stand between tokens. -/
def isSpace (c : Char) : Bool :=
  c == ' ' || c == '\t' || c == Char.ofNat 12 || c == '\r' || c == '\n'

/-- A text begins with a word that ends there. -/
def beginsWithWord (word : String) (text : List Char) : Bool :=
  word.toList.isPrefixOf text &&
    match text.drop word.length with
    | [] => true
    | next :: _ => !isWordChar next

/-- The length of a word at the start of a text, if it ends there. -/
def wordLength? (word : String) (text : List Char) : Option Nat :=
  if beginsWithWord word text then some word.length else none

/-- The length of the first of some fixed texts that begins a text. -/
def fixedLength? (fixed : List String) (text : List Char) : Option Nat :=
  (fixed.find? fun candidate => candidate.toList.isPrefixOf text).map String.length

/-- The length of a name at the start of a text: no reserved word that ends there. -/
def nameLength? (text : List Char) : Option Nat :=
  match text with
  | [] => none
  | first :: rest =>
    if !isNameStart first || reservedWords.any fun word => beginsWithWord word text then none
    else some (1 + (rest.takeWhile isNameChar).length)

/-- A decimal digit of any script or a separator. -/
def isDigitOrSeparator (c : Char) : Bool := c == '_' || isDigit c

/-- The length of an exponent at the start of a text, zero where there is none. -/
def exponentLength (text : List Char) : Nat :=
  match text with
  | mark :: rest =>
    if mark == 'e' || mark == 'E' then
      let sign :=
        match rest with
        | '+' :: _ => 1
        | '-' :: _ => 1
        | _ => 0
      let digits := ((rest.drop sign).takeWhile isDigit).length
      if digits = 0 then 0 else 1 + sign + digits
    else 0
  | [] => 0

/-- The length of a decimal without its exponent at the start of a text. -/
def mantissaLength? (text : List Char) : Option Nat :=
  match text with
  | '.' :: digit :: rest =>
    if isDigit digit then some (2 + (rest.takeWhile isDigitOrSeparator).length) else none
  | digit :: rest =>
    if isDigit digit then
      let whole := (rest.takeWhile isDigitOrSeparator).length
      match rest.drop whole with
      | '.' :: fraction => some (2 + whole + (fraction.takeWhile isDigitOrSeparator).length)
      | _ => some (1 + whole)
    else none
  | [] => none

/-- The length of a decimal at the start of a text. -/
def decimalLength? (text : List Char) : Option Nat :=
  (mantissaLength? text).map fun length => length + exponentLength (text.drop length)

/-- The length of a number with a base mark, if at least one of its characters follows. -/
def baseLength? (isMember : Char → Bool) (text : List Char) : Option Nat :=
  let digits := (text.takeWhile isMember).length
  if digits = 0 then none else some (2 + digits)

/-- The length of a number at the start of a text: hexadecimal, binary or decimal. -/
def numberLength? (text : List Char) : Option Nat :=
  let marked :=
    match text with
    | '0' :: mark :: rest =>
      if mark == 'x' || mark == 'X' then
        baseLength? (fun c => c == '_' || (hexValue? c).isSome) rest
      else if mark == 'b' || mark == 'B' then
        baseLength? (fun c => c == '_' || c == '0' || c == '1') rest
      else none
    | _ => none
  marked.or (decimalLength? text)

/-- The quote that may hold line breaks. -/
def backQuote : Char := Char.ofNat 96

/-- The number of characters up to and including the closing quote; a backslash takes the next
character with it, unless that is a line break. -/
def closingDistance? (quote : Char) : List Char → Option Nat
  | [] => none
  | '\\' :: escaped :: rest =>
    if escaped == '\n' then none else (closingDistance? quote rest).map (· + 2)
  | ['\\'] => none
  | c :: rest =>
    if c == quote then some 1
    else if c == '\n' && quote != backQuote then none
    else (closingDistance? quote rest).map (· + 1)

/-- The length of a string literal at the start of a text. -/
def stringLength? (text : List Char) : Option Nat :=
  match text with
  | quote :: rest =>
    if quote == '"' || quote == '\'' || quote == backQuote then
      (closingDistance? quote rest).map (· + 1)
    else none
  | [] => none

/-- The length of a token of a given kind at the start of a text. -/
def Terminal.matchLength? : Terminal → List Char → Option Nat
  | .name => nameLength?
  | .number => numberLength?
  | .string => stringLength?
  | .openParen => fixedLength? ["("]
  | .closeParen => fixedLength? [")"]
  | .openBracket => fixedLength? ["["]
  | .closeBracket => fixedLength? ["]"]
  | .openBrace => fixedLength? ["\x7b"]
  | .closeBrace => fixedLength? ["\x7d"]
  | .comma => fixedLength? [","]
  | .semicolon => fixedLength? [";"]
  | .dot => fixedLength? ["."]
  | .colon => fixedLength? [":"]
  | .equals => fixedLength? ["="]
  | .comparison => fixedLength? ["==", "~=", "<=", ">=", "<", ">"]
  | .concat => fixedLength? [".."]
  | .plus => fixedLength? ["+"]
  | .minus => fixedLength? ["-"]
  | .product => fixedLength? ["//", "*", "/", "%"]
  | .power => fixedLength? ["^"]
  | .hash => fixedLength? ["#"]
  | .andWord => wordLength? "and"
  | .orWord => wordLength? "or"
  | .notWord => wordLength? "not"
  | .nilWord => wordLength? "nil"
  | .trueWord => wordLength? "true"
  | .falseWord => wordLength? "false"
  | .ifWord => wordLength? "if"
  | .thenWord => wordLength? "then"
  | .elseWord => wordLength? "else"
  | .elseifWord => wordLength? "elseif"

/-- The longest token at the start of a text among the expected kinds; of two of one length the
first. -/
def longestToken? (expected : List Terminal) (text : List Char) : Option (Terminal × Nat) :=
  expected.foldl
    (fun best terminal =>
      match terminal.matchLength? text, best with
      | none, best => best
      | some length, none => some (terminal, length)
      | some length, some (chosen, reach) =>
        if reach < length then some (terminal, length) else some (chosen, reach))
    none

end LuauNodes.Expression
