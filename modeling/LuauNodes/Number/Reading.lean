import LuauNodes.Number.Binary64
import LuauNodes.Text.Blank
import LuauNodes.Text.Digit

/-!
# Numbers written as text

How a text in a numeric field is read.  White space around it is ignored, a
sign may stand in front, and single underscores may separate digits.  A whole
number may carry a fraction of zeros; a real number may be an infinity, may
leave out one side of its point, and may have an exponent.
-/

namespace LuauNodes.Number

open LuauNodes.Text

/-- An ASCII decimal digit. -/
def isAsciiDigit (c : Char) : Bool := '0' ≤ c && c ≤ '9'

/-- Removes single underscores between other characters; none may stand at an end or beside
another one. -/
def dropUnderscores : List Char → Option (List Char)
  | [] => some []
  | ['_'] => none
  | '_' :: '_' :: _ => none
  | '_' :: rest => dropUnderscores rest
  | c :: rest => (dropUnderscores rest).map (c :: ·)

/-- The text without underscores, if they are placed as separators. -/
def withoutSeparators (text : List Char) : Option (List Char) :=
  match text with
  | '_' :: _ => none
  | _ => dropUnderscores text

/-- Splits an optional sign off; the flag says that it was a minus. -/
def splitSign : List Char → Bool × List Char
  | '-' :: rest => (true, rest)
  | '+' :: rest => (false, rest)
  | text => (false, text)

/-- A whole number: a sign, digits, and possibly a fraction of zeros. -/
def integer? (text : String) : Option Int :=
  let (negative, body) := splitSign (trimBy isWhiteSpace text.toList)
  let whole := body.takeWhile (· ≠ '.')
  let fraction := (body.dropWhile (· ≠ '.')).drop 1
  match withoutSeparators whole with
  | some digits =>
    if digits.isEmpty || !digits.all isAsciiDigit || !fraction.all (· == '0') then none
    else
      let size : Int := (digitsValue digits : Nat)
      some (if negative then -size else size)
  | none => none

/-- The value of an optional exponent at the end of a real number; none where the rest is not
one. -/
def exponent? : List Char → Option Int
  | [] => some 0
  | mark :: rest =>
    let (negative, digits) := splitSign rest
    if (mark == 'e' || mark == 'E') && !digits.isEmpty && digits.all isAsciiDigit then
      let size : Int := (digitsValue digits : Nat)
      some (if negative then -size else size)
    else none

/-- The digits of a decimal as one coefficient, scaled by the length of its fraction and by an
exponent. -/
def ofParts (negative : Bool) (whole fraction : List Char) (exponent : Int) : Binary64 :=
  Binary64.ofDecimal negative (digitsValue (whole ++ fraction)) (exponent - (fraction.length : Int))

/-- A decimal without a sign: digits, a point, a fraction and an exponent, with a digit on at
least one side of the point. -/
def decimal? (negative : Bool) (body : List Char) : Option Binary64 :=
  let whole := body.takeWhile isAsciiDigit
  let rest := body.dropWhile isAsciiDigit
  let (fraction, tail) :=
    match rest with
    | '.' :: after => (after.takeWhile isAsciiDigit, after.dropWhile isAsciiDigit)
    | _ => ([], rest)
  if whole.isEmpty && fraction.isEmpty then none
  else (exponent? tail).map (ofParts negative whole fraction)

/-- The names of infinity. -/
def infinityNames : List String := ["inf", "infinity"]

/-- A real number in a plain form without separators. -/
def plainReal? (text : List Char) : Option Binary64 :=
  let (negative, body) := splitSign text
  let name := String.ofList (body.map Char.toLower)
  if infinityNames.contains name then some (Binary64.infinity negative)
  else if name == "nan" then some Binary64.nan
  else decimal? negative body

/-- A real number: a plain form, or one that separators were removed from. -/
def real? (text : String) : Option Binary64 :=
  let trimmed := trimBy isWhiteSpace text.toList
  match plainReal? trimmed with
  | some value => some value
  | none => (withoutSeparators trimmed).bind plainReal?

end LuauNodes.Number
