import LuauNodes.Expression.Tree

/-!
# Names that an expression reads

The free names of an expression with their columns, in the order of the text.
Names of fields and methods, and keys of table fields that are written as names,
are not read.

The names are collected by a walk that makes a call for each expression, for each
list of parts, for each table field or branch in such a list, and for what else an
expression carries beside its columns.  A name alone is not looked into.  The reach
of the walk is how deep its calls nest.
-/

namespace LuauNodes.Expression

/-- A name that is read, and where. -/
structure NameUse where
  name : String
  span : Span
  deriving DecidableEq

mutual

/-- The names that an expression reads. -/
def Expr.names : Expr → List NameUse
  | .name span name => [⟨name, span⟩]
  | .number _ _ => []
  | .string _ _ => []
  | .boolean _ _ => []
  | .nil _ => []
  | .unary _ _ operand => operand.names
  | .binary _ _ left right => left.names ++ right.names
  | .field _ target _ => target.names
  | .index _ target key => target.names ++ key.names
  | .call _ callee arguments => callee.names ++ argumentNames arguments
  | .method _ target _ arguments => target.names ++ argumentNames arguments
  | .table _ fields => fieldNames fields
  | .choice _ branches otherwise => branchNames branches ++ otherwise.names

/-- The names that arguments read. -/
def argumentNames : List Expr → List NameUse
  | [] => []
  | argument :: rest => argument.names ++ argumentNames rest

/-- The names that table fields read. -/
def fieldNames : List TableField → List NameUse
  | [] => []
  | .keyed key value :: rest => key.names ++ value.names ++ fieldNames rest
  | .named _ value :: rest => value.names ++ fieldNames rest
  | .positional value :: rest => value.names ++ fieldNames rest

/-- The names that the branches of a choice read. -/
def branchNames : List Branch → List NameUse
  | [] => []
  | .mk condition value :: rest => condition.names ++ value.names ++ branchNames rest

end

mutual

/-- How deep the calls nest in the walk over an expression.  An operator, or the name of a field or
method, takes one call, which is never deeper than that of the operand beside it. -/
def Expr.reach : Expr → Nat
  | .name _ _ => 1
  | .number _ _ => 2
  | .string _ _ => 2
  | .boolean _ _ => 2
  | .nil _ => 1
  | .unary _ _ operand => 1 + operand.reach
  | .binary _ _ left right => 1 + max left.reach right.reach
  | .field _ target _ => 1 + target.reach
  | .index _ target key => 1 + max target.reach key.reach
  | .call _ callee arguments => 1 + max callee.reach (argumentReach arguments)
  | .method _ target _ arguments => 1 + max target.reach (argumentReach arguments)
  | .table _ fields => 1 + fieldReach fields
  | .choice _ branches otherwise => 1 + max (branchReach branches) otherwise.reach

/-- How deep the calls nest in the walk over arguments. -/
def argumentReach : List Expr → Nat
  | [] => 1
  | argument :: rest => max (1 + argument.reach) (argumentReach rest)

/-- How deep the calls nest in the walk over table fields. -/
def fieldReach : List TableField → Nat
  | [] => 1
  | .keyed key value :: rest => max (2 + max key.reach value.reach) (fieldReach rest)
  | .named _ value :: rest => max (2 + value.reach) (fieldReach rest)
  | .positional value :: rest => max (2 + value.reach) (fieldReach rest)

/-- How deep the calls nest in the walk over the branches of a choice. -/
def branchReach : List Branch → Nat
  | [] => 1
  | .mk condition value :: rest => max (2 + max condition.reach value.reach) (branchReach rest)

end

end LuauNodes.Expression
