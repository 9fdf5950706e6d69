import LuauNodes.Expression.Terminal
import LuauNodes.Number.DigitLimit
import LuauNodes.Text.WordChar

/-!
# Faults of expressions

Why a text is not an expression.  Each fault is a cause with the columns and
characters that it concerns; the wording is one function.
-/

namespace LuauNodes.Expression

open LuauNodes.Text

/-- Why the text of a number has no value. -/
inductive NumberFlaw where
  | noDigits (base : Nat)
  | tooManyDigits (count : Nat)
  deriving DecidableEq

/-- Where and why the grammar refuses a text. -/
inductive SyntaxFault where
  | unexpectedCharacter (expected : List Terminal) (found : Char)
  | unexpectedEnd (expected : List Terminal)
  | unreadableNumber (flaw : NumberFlaw)
  deriving DecidableEq

/-- Why a text is not an expression. -/
inductive Fault where
  | empty (field : String)
  | unmatchedBracket (bracket : Char) (column : Nat)
  | unclosedString (column : Nat)
  | malformed (column : Nat) (cause : SyntaxFault)
  | invalidCharacter (found : Char) (column : Nat)
  | tooDeep
  deriving DecidableEq

/-- The wording of a flawed number. -/
def NumberFlaw.message : NumberFlaw → String
  | noDigits base => s!"invalid literal for int() with base {base}: ''"
  | tooManyDigits count => Number.digitLimitText count

/-- Drops repetitions from an increasing list. -/
def dropRepeats : List String → List String
  | [] => []
  | [only] => [only]
  | first :: second :: rest =>
    if first == second then dropRepeats (second :: rest)
    else first :: dropRepeats (second :: rest)

/-- The names of some terminals in increasing order, each once. -/
def descriptions (expected : List Terminal) : List String :=
  dropRepeats ((expected.map Terminal.description).mergeSort fun left right => left ≤ right)

/-- What would have fitted, as a clause. -/
def expectedText (expected : List Terminal) : String :=
  match (descriptions expected).reverse with
  | [] => ""
  | [only] => s!"Expected {only}"
  | last :: others =>
    "Expected one of: " ++ String.intercalate ", " others.reverse ++ " or " ++ last

/-- The wording of a refusal by the grammar. -/
def SyntaxFault.message : SyntaxFault → String
  | unexpectedCharacter expected found =>
    s!"{expectedText expected}, but found '{found}' instead."
  | unexpectedEnd expected =>
    s!"{expectedText expected}, but reached the end of the expression instead."
  | unreadableNumber flaw =>
    "Error trying to process rule \"number\":\n\n" ++ flaw.message

/-- The characters that may stand in an expression besides letters, digits and numerics. -/
def punctuation : List Char :=
  backQuote :: "+-*/%^#=~<>()\x7b\x7d[];:,.\"'_ \t".toList

/-- The character can occur in an expression outside string literals. -/
def mayOccur (c : Char) : Bool := isAlphanumeric c || punctuation.contains c

/-- The fault of a character that the grammar does not admit where it stands: characters that
occur in no expression are named as such. -/
def Fault.atCharacter (expected : List Terminal) (found : Char) (column : Nat) : Fault :=
  if mayOccur found then malformed column (.unexpectedCharacter expected found)
  else invalidCharacter found column

/-- The wording of a fault. -/
def Fault.message : Fault → String
  | empty field => s!"The {field} expression is empty."
  | unmatchedBracket bracket column => s!"Unmatched bracket '{bracket}' at column {column}."
  | unclosedString column => s!"Unclosed string literal starting at column {column}."
  | malformed column cause => s!"Invalid syntax at column {column}. {cause.message}"
  | invalidCharacter found column => s!"Invalid character '{found}' at column {column}."
  | tooDeep => "The expression is nested too deeply to analyze."

/-- The code of a fault. -/
def Fault.code : Fault → String
  | empty _ => "EXPRESSION_EMPTY"
  | unmatchedBracket _ _ => "EXPRESSION_UNMATCHED_BRACKET"
  | unclosedString _ => "EXPRESSION_UNCLOSED_STRING"
  | malformed _ _ => "EXPRESSION_SYNTAX"
  | invalidCharacter _ _ => "EXPRESSION_INVALID_CHARACTER"
  | tooDeep => "EXPRESSION_TOO_DEEP"

end LuauNodes.Expression
