import LuauNodes.Expression.Balance
import LuauNodes.Expression.Progress

/-!
# Reading expressions

A text is read in stages, and the first stage that finds a fault reports it: the
text is not blank, its brackets and quotes match, the grammar accepts it, every
number has a value, and it is not nested beyond the greatest depth.
-/

namespace LuauNodes.Expression

/-- The column after a character: lines start again at one. -/
def nextColumn (column : Nat) (c : Char) : Nat := if c == '\n' then 1 else column + 1

/-- The column behind the last character of a token that begins at the given column. -/
def stopColumn (column : Nat) (lexeme : List Char) : Nat :=
  lexeme.dropLast.foldl nextColumn column + 1

/-- The next token at the start of a text, among those that fit. -/
def nextToken? (progress : Progress) (column : Nat) (text : List Char) : Option Token :=
  (longestToken? progress.expected text).map fun found =>
    let lexeme := text.take found.2
    ⟨found.1, lexeme, ⟨column, stopColumn column lexeme⟩⟩

/-- Reads tokens up to the end of the text.  The text stands at a column, and its first `pending`
characters belong to the token that was read last. -/
def readTokens (progress : Progress) (column pending : Nat) :
    List Char → Except Fault Progress
  | [] => .ok progress
  | c :: rest =>
    match pending with
    | remaining + 1 => readTokens progress (nextColumn column c) remaining rest
    | 0 =>
      match nextToken? progress column (c :: rest) with
      | some token =>
        match progress.step token with
        | some further =>
          readTokens further (nextColumn column c) (token.lexeme.length - 1) rest
        | none => .error (.atCharacter progress.expected c column)
      | none =>
        if isSpace c then readTokens progress (nextColumn column c) 0 rest
        else .error (.atCharacter progress.expected c column)

/-- The operand that the grammar makes of a text. -/
def readOperand (text : List Char) : Except Fault Operand :=
  match readTokens .start 1 0 text with
  | .error fault => .error fault
  | .ok progress =>
    match progress.finish? with
    | some operand => .ok operand
    | none => .error (.malformed (text.length + 1) (.unexpectedEnd progress.expected))

/-- The most levels of the grammar that an expression may span. -/
def maxDepth : Nat := 490

/-- The tree of an operand, if its numbers have values and it is not nested too deeply. -/
def Operand.tree? (operand : Operand) : Except Fault Expr :=
  match operand.flaw with
  | some flaw =>
    if flaw.depth ≤ maxDepth then .error (.malformed 1 (.unreadableNumber flaw.cause))
    else .error .tooDeep
  | none => if operand.height ≤ maxDepth then .ok operand.tree else .error .tooDeep

/-- The expression that a text is; `field` names the text in the fault of a blank one. -/
def parse (text : String) (field : String) : Except Fault Expr :=
  if Text.isBlankText text then .error (.empty field)
  else
    match textBalanceFault? text.toList with
    | some fault => .error fault
    | none =>
      match readOperand text.toList with
      | .error fault => .error fault
      | .ok operand => operand.tree?

end LuauNodes.Expression
