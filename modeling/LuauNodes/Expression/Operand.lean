import LuauNodes.Expression.Fault
import LuauNodes.Expression.Tree
import LuauNodes.Number.DigitLimit
import LuauNodes.Number.Reading

/-!
# Operands

What is known of a part of an expression once it is read: its tree, how many
levels of the grammar it spans, and the first number in it that has no value.
Such a number does not stop the reading, because faults of the grammar anywhere
in the text come first.
-/

namespace LuauNodes.Expression

open LuauNodes.Text

/-- A number without a value, and the most levels that were visited before it was found. -/
structure Flaw where
  depth : Nat
  cause : NumberFlaw

/-- A part of an expression.  `chain` is the level of the left-associative operators at its top,
or zero when it has none there outside parentheses. -/
structure Operand where
  tree : Expr
  height : Nat
  chain : Nat
  flaw : Option Flaw

instance : Inhabited Operand := ⟨⟨default, 0, 0, none⟩⟩

namespace Operand

/-- The columns of an operand. -/
def span (operand : Operand) : Span := operand.tree.span

/-- The greatest height among parts, each counted from the given number of levels above it. -/
def heightOf (parts : List (Nat × Operand)) : Nat :=
  parts.foldl (fun height part => max height (part.1 + part.2.height)) 1

/-- The first flaw among parts, with the most levels visited up to it. -/
def flawOf (visited : Nat) : List (Nat × Operand) → Option Flaw
  | [] => none
  | (levels, part) :: rest =>
    match part.flaw with
    | some flaw => some ⟨max visited (levels + flaw.depth), flaw.cause⟩
    | none => flawOf (max visited (levels + part.height)) rest

/-- An operand made of parts, each below it by the given number of levels. -/
def build (tree : Expr) (parts : List (Nat × Operand)) : Operand :=
  ⟨tree, heightOf parts, 0, flawOf 1 parts⟩

/-- An operand without parts. -/
def leaf (tree : Expr) : Operand := build tree []

/-- The value of a number with a base mark. -/
def baseNumeral (base : Nat) (digits : List Char) : Except NumberFlaw Numeral :=
  if digits.isEmpty then .error (.noDigits base) else .ok (.whole (baseValue base digits))

/-- The value of a decimal: a whole number unless it has a point or an exponent. -/
def decimalNumeral (digits : List Char) : Except NumberFlaw Numeral :=
  let whole := digits.takeWhile isDigit
  match digits.dropWhile isDigit with
  | [] =>
    if Number.maxDigits < whole.length then .error (.tooManyDigits whole.length)
    else .ok (.whole (digitsValue whole))
  | rest =>
    let fraction :=
      match rest with
      | '.' :: after => after.takeWhile isDigit
      | _ => []
    let mark := rest.dropWhile fun c => c == '.' || isDigit c
    let (negative, exponent) := Number.splitSign (mark.drop 1)
    let size : Int := (digitsValue exponent : Nat)
    .ok (.real (Number.ofParts false whole fraction (if negative then -size else size)))

/-- The value of a number literal; separators carry no meaning. -/
def numeral (lexeme : List Char) : Except NumberFlaw Numeral :=
  match lexeme.filter (· != '_') with
  | '0' :: mark :: digits =>
    if mark == 'x' || mark == 'X' then baseNumeral 16 digits
    else if mark == 'b' || mark == 'B' then baseNumeral 2 digits
    else decimalNumeral ('0' :: mark :: digits)
  | digits => decimalNumeral digits

/-- A number literal. -/
def number (span : Span) (lexeme : List Char) : Operand :=
  match numeral lexeme with
  | .ok value => leaf (.number span value)
  | .error cause => { leaf (.number span (.whole 0)) with flaw := some ⟨1, cause⟩ }

/-- A string literal: the text between its quotes as it is written. -/
def string (span : Span) (lexeme : List Char) : Operand :=
  leaf (.string span (String.ofList (lexeme.drop 1).dropLast))

/-- An operand in parentheses: its tree alone remains. -/
def parenthesised (inner : Operand) : Operand :=
  build inner.tree [(1, inner)]

/-- An operator applied to the operand after it. -/
def unary (operator : UnaryOperator) (column : Nat) (operand : Operand) : Operand :=
  build (.unary ⟨column, operand.span.stop⟩ operator operand.tree) [(1, operand)]

/-- An operator applied to its two operands; a chain of one level is a single node of the
grammar. -/
def binary (operator : BinaryOperator) (left right : Operand) : Operand :=
  let tree := .binary ⟨left.span.first, right.span.stop⟩ operator left.tree right.tree
  let levels := if left.chain = operator.level then 0 else 1
  { build tree [(levels, left), (1, right)] with chain := operator.level }

/-- A named field of an operand. -/
def field (target : Operand) (name : String) (stop : Nat) : Operand :=
  build (.field ⟨target.span.first, stop⟩ target.tree name) [(1, target)]

/-- An operand indexed by another. -/
def index (target key : Operand) (stop : Nat) : Operand :=
  build (.index ⟨target.span.first, stop⟩ target.tree key.tree) [(1, target), (1, key)]

/-- The parts of a call: the arguments stand under a node of their own. -/
def callParts (target : Operand) (arguments : List Operand) : List (Nat × Operand) :=
  (1, target) :: arguments.map fun argument => (2, argument)

/-- A call. -/
def call (callee : Operand) (arguments : List Operand) (stop : Nat) : Operand :=
  build (.call ⟨callee.span.first, stop⟩ callee.tree (arguments.map Operand.tree))
    (callParts callee arguments)

/-- A call of a method. -/
def method (target : Operand) (name : String) (arguments : List Operand) (stop : Nat) : Operand :=
  build (.method ⟨target.span.first, stop⟩ target.tree name (arguments.map Operand.tree))
    (callParts target arguments)

end Operand

/-- The key of a table field. -/
inductive EntryKey where
  | positional
  | named (name : String)
  | keyed (key : Operand)

/-- A table field that is read. -/
structure Entry where
  key : EntryKey
  value : Operand

/-- The tree of a table field. -/
def Entry.tree (entry : Entry) : TableField :=
  match entry.key with
  | .positional => .positional entry.value.tree
  | .named name => .named name entry.value.tree
  | .keyed key => .keyed key.tree entry.value.tree

/-- The parts of a table field: fields stand under nodes of their own. -/
def Entry.parts (entry : Entry) : List (Nat × Operand) :=
  match entry.key with
  | .keyed key => [(2, key), (2, entry.value)]
  | _ => [(2, entry.value)]

/-- A table constructor. -/
def Operand.table (span : Span) (entries : List Entry) : Operand :=
  build (.table span (entries.map Entry.tree)) (entries.flatMap Entry.parts)

/-- A choice: conditions with their values, and the value that is left. -/
def Operand.choice (column : Nat) (branches : List (Operand × Operand)) (otherwise : Operand) :
    Operand :=
  build
    (.choice ⟨column, otherwise.span.stop⟩
      (branches.map fun branch => .mk branch.1.tree branch.2.tree) otherwise.tree)
    ((branches.flatMap fun branch => [(1, branch.1), (1, branch.2)]) ++ [(1, otherwise)])

end LuauNodes.Expression
