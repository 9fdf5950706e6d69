import LuauNodes.Number.Binary64

/-!
# Expression trees

The syntax tree of an inline expression.  Every node carries the columns that it
covers; parentheses leave no node behind.  A table field is no node of its own
and has no columns.
-/

namespace LuauNodes.Expression

/-- Columns counted from one; the last one is exclusive. -/
structure Span where
  first : Nat
  stop : Nat
  deriving DecidableEq, Inhabited

/-- The value of a number literal. -/
inductive Numeral where
  | whole (value : Nat)
  | real (value : Binary64)
  deriving DecidableEq, Inhabited

/-- An operator in front of its operand. -/
inductive UnaryOperator where
  | logicalNot
  | negate
  | length
  deriving DecidableEq, Inhabited

/-- An operator between its operands. -/
inductive BinaryOperator where
  | or
  | and
  | equal
  | notEqual
  | atMost
  | atLeast
  | less
  | greater
  | concat
  | add
  | subtract
  | multiply
  | divide
  | floorDivide
  | modulo
  | power
  deriving DecidableEq, Inhabited

/-- The written form of a unary operator. -/
def UnaryOperator.symbol : UnaryOperator → String
  | logicalNot => "not"
  | negate => "-"
  | length => "#"

/-- The written form of a binary operator. -/
def BinaryOperator.symbol : BinaryOperator → String
  | or => "or"
  | and => "and"
  | equal => "=="
  | notEqual => "~="
  | atMost => "<="
  | atLeast => ">="
  | less => "<"
  | greater => ">"
  | concat => ".."
  | add => "+"
  | subtract => "-"
  | multiply => "*"
  | divide => "/"
  | floorDivide => "//"
  | modulo => "%"
  | power => "^"

/-- Every binary operator. -/
def BinaryOperator.all : List BinaryOperator :=
  [or, and, equal, notEqual, atMost, atLeast, less, greater, concat, add, subtract, multiply,
   divide, floorDivide, modulo, power]

/-- The binary operator with a written form. -/
def BinaryOperator.ofSymbol? (symbol : String) : Option BinaryOperator :=
  BinaryOperator.all.find? fun operator => operator.symbol == symbol

/-- How tightly an operator binds; a higher level binds more tightly.  Unary operators stand
between the products and the power. -/
def BinaryOperator.level : BinaryOperator → Nat
  | or => 1
  | and => 2
  | equal | notEqual | atMost | atLeast | less | greater => 3
  | concat => 4
  | add | subtract => 5
  | multiply | divide | floorDivide | modulo => 6
  | power => 8

/-- The level of the unary operators. -/
def unaryLevel : Nat := 7

mutual

/-- An expression. -/
inductive Expr where
  | name (span : Span) (name : String)
  | number (span : Span) (value : Numeral)
  | string (span : Span) (body : String)
  | boolean (span : Span) (value : Bool)
  | nil (span : Span)
  | unary (span : Span) (operator : UnaryOperator) (operand : Expr)
  | binary (span : Span) (operator : BinaryOperator) (left right : Expr)
  | field (span : Span) (target : Expr) (field : String)
  | index (span : Span) (target key : Expr)
  | call (span : Span) (callee : Expr) (arguments : List Expr)
  | method (span : Span) (target : Expr) (method : String) (arguments : List Expr)
  | table (span : Span) (fields : List TableField)
  | choice (span : Span) (branches : List Branch) (otherwise : Expr)

/-- A field of a table constructor. -/
inductive TableField where
  | keyed (key value : Expr)
  | named (name : String) (value : Expr)
  | positional (value : Expr)

/-- A condition with the value that is chosen where it holds. -/
inductive Branch where
  | mk (condition value : Expr)

end

instance : Inhabited Expr := ⟨.nil default⟩

instance : Inhabited TableField := ⟨.positional default⟩

instance : Inhabited Branch := ⟨.mk default default⟩

/-- The columns that an expression covers. -/
def Expr.span : Expr → Span
  | .name span _ => span
  | .number span _ => span
  | .string span _ => span
  | .boolean span _ => span
  | .nil span => span
  | .unary span _ _ => span
  | .binary span _ _ _ => span
  | .field span _ _ => span
  | .index span _ _ => span
  | .call span _ _ => span
  | .method span _ _ _ => span
  | .table span _ => span
  | .choice span _ _ => span

end LuauNodes.Expression
