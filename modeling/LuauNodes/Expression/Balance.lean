import LuauNodes.Expression.Fault

/-!
# Brackets and quotes

A scan that precedes the grammar.  Outside string literals the brackets of the
three kinds must nest properly; a literal runs to the next quote of its kind
that no backslash stands before.  Of several faults the first bracket that
closes nothing is reported, else an unclosed literal, else the last bracket that
is still open.
-/

namespace LuauNodes.Expression

/-- The closing bracket of an opening one. -/
def closerOf? : Char → Option Char
  | '(' => some ')'
  | '[' => some ']'
  | '\x7b' => some '\x7d'
  | _ => none

/-- One of the three closing brackets. -/
def isCloser (c : Char) : Bool := c == ')' || c == ']' || c == '\x7d'

/-- One of the three quotes. -/
def isQuote (c : Char) : Bool := c == '"' || c == '\'' || c == backQuote

/-- A string literal that the scan is inside of. -/
structure OpenLiteral where
  quote : Char
  column : Nat
  escaped : Bool

/-- The state of the literal after one more of its characters. -/
def OpenLiteral.advance (literal : OpenLiteral) (c : Char) : Option OpenLiteral :=
  if literal.escaped then some { literal with escaped := false }
  else if c == '\\' then some { literal with escaped := true }
  else if c == literal.quote then none
  else some literal

/-- The fault of a scan that stands before the given column, with the brackets that are open,
innermost first, and the literal that it is inside of. -/
def balanceFault?
    (column : Nat)
    (opened : List (Char × Nat))
    (literal : Option OpenLiteral) :
    List Char → Option Fault
  | [] =>
    match literal, opened with
    | some inside, _ => some (.unclosedString inside.column)
    | none, (bracket, place) :: _ => some (.unmatchedBracket bracket place)
    | none, [] => none
  | c :: rest =>
    match literal with
    | some inside => balanceFault? (column + 1) opened (inside.advance c) rest
    | none =>
      if isQuote c then balanceFault? (column + 1) opened (some ⟨c, column, false⟩) rest
      else if (closerOf? c).isSome then balanceFault? (column + 1) ((c, column) :: opened) none rest
      else if isCloser c then
        match opened with
        | (bracket, _) :: outer =>
          if closerOf? bracket == some c then balanceFault? (column + 1) outer none rest
          else some (.unmatchedBracket c column)
        | [] => some (.unmatchedBracket c column)
      else balanceFault? (column + 1) opened none rest

/-- The fault in the brackets and quotes of a text. -/
def textBalanceFault? (text : List Char) : Option Fault := balanceFault? 1 [] none text

end LuauNodes.Expression
