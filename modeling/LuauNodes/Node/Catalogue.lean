import LuauNodes.Node.Kind

/-!
# The catalogue of node kinds

Every kind of node that the editor offers, category by category.
-/

namespace LuauNodes.Catalogue

open NodeKind (plain)

/-- The ends of a script. -/
def root : List NodeKind :=
  let kind := plain "Root"
  [kind "Start" "Start" "Starting point." .start,
   kind "End" "End" "Ending point." .finish]

/-- Values. -/
def basicTypes : List NodeKind :=
  let kind := plain "Basic Types"
  [kind "Nil" "Nil" "Represents the absence of a value." .nil,
   kind "String" "String" "A text value, literal or computed." .string,
   kind "Number" "Number" "A numeric value, literal or computed." .number,
   kind "Boolean" "Boolean" "A true/false value, literal or computed." .boolean,
   kind "Table" "Table" "Represents a key-value dictionary." .table,
   kind "Vector" "Vector" "Represents a 3D vector (X, Y, Z)." .vector]

/-- Operators on numbers. -/
def arithmetic : List NodeKind :=
  let kind (id description : String) : NodeKind :=
    plain "Arithmetic" id id description (.operator .number .number 2)
  [kind "Add" "Adds two numbers (a + b).",
   kind "Subtract" "Subtracts b from a (a - b).",
   kind "Multiply" "Multiplies two numbers (a * b).",
   kind "Divide" "Divides a by b (a / b).",
   kind "Modulus" "Remainder of a divided by b (a % b)."]

/-- Comparisons: equality takes any operands, order takes numbers. -/
def comparison : List NodeKind :=
  let kind (id name description : String) (operand : LuauType) : NodeKind :=
    plain "Comparison" id name description (.operator operand .boolean 2)
  [kind "Equal" "Equal" "True when a == b." .any,
   kind "NotEqual" "Not Equal" "True when a ~= b." .any,
   kind "GreaterThan" "Greater Than" "True when a > b." .number,
   kind "GreaterThanOrEqual" "Greater Than Or Equal" "True when a >= b." .number,
   kind "LessThan" "Less Than" "True when a < b." .number,
   kind "LessThanOrEqual" "Less Than Or Equal" "True when a <= b." .number]

/-- Operators on truth values. -/
def logical : List NodeKind :=
  let kind (id description : String) (operands : Nat) : NodeKind :=
    plain "Logical" id id description (.operator .boolean .boolean operands)
  [kind "And" "True when both a and b are true." 2,
   kind "Or" "True when a or b is true." 2,
   kind "Not" "Negates a boolean." 1]

/-- A kind whose nodes own a scope. -/
def owning (kind : NodeKind) (scopeKind : ScopeKind) (bodyOutputs : List String) : NodeKind :=
  { kind with scopeKind := some scopeKind, bodyOutputs := bodyOutputs }

/-- A kind whose nodes declare a symbol. -/
def declaring (kind : NodeKind) (space : Namespace) : NodeKind :=
  { kind with declares := some space }

/-- Branches, loops and jumps. -/
def controlFlow : List NodeKind :=
  let kind := plain "Control Flow"
  [owning (kind "IfElse" "If / Else" "Runs the first branch whose condition holds." .ifElse)
     .block ["then", "elseif-*", "else"],
   kind "Condition" "Condition" "Compares two values with the selected operator." .condition,
   owning (kind "WhileLoop" "While Loop" "Repeats its body while the condition holds." .whileLoop)
     .loop ["loop"],
   owning
     (kind "RepeatUntilLoop" "Repeat Until"
       "Runs its body, then repeats until the condition holds." .repeatUntil)
     .loop ["loop"],
   declaring
     (owning
       (kind "ForLoop" "For Loop" "Numeric (counting) or generic (iterator) for loop." .forLoop)
       .loop ["loop"])
     .vars,
   kind "BreakStatement" "Break" "Exits the innermost loop." .breakLoop,
   kind "ContinueStatement" "Continue" "Skips to the next iteration of the innermost loop."
     .continueLoop,
   kind "ReturnStatement" "Return" "Returns from the enclosing function." .returnValue]

/-- Variables. -/
def variableNodes : List NodeKind :=
  let kind := plain "Variables"
  [kind "VariableGet" "Get Variable" "Reads a variable visible from this node." .variableGet,
   declaring
     (kind "VariableSet" "Set Variable" "Declares or assigns a variable in the enclosing scope."
       .variableSet)
     .vars]

/-- Functions. -/
def functionNodes : List NodeKind :=
  let kind := plain "Functions"
  [declaring
     (owning
       (kind "FunctionDefinition" "Function Definition"
         "Declares a named function with typed parameters and a return type."
         .functionDefinition)
       .function ["body"])
     .functions,
   kind "FunctionCall" "Function Call" "Calls a declared function; sockets follow its signature."
     .functionCall]

/-- Output. -/
def sideEffects : List NodeKind :=
  [plain "Side Effects" "Print" "Print" "Writes a value to the output console." .print]

/-- The table library. -/
def tables : List NodeKind :=
  let kind := plain "Table"
  [kind "TableClear" "Table Clear" "Clears all elements from a table using table.clear()"
     .tableClear,
   kind "TableClone" "Table Clone" "Shallow copy of a table using table.clone()" .tableClone,
   kind "TableConcat" "Table Concat" "Joins table elements into a string using table.concat()"
     .tableConcat,
   kind "TableCreate" "Table Create" "Creates a table of a given size using table.create()"
     .tableCreate,
   kind "TableFind" "Table Find" "Finds the index of a value using table.find()" .tableFind,
   kind "TableForeach" "Table Foreach" "Calls a function for every key-value pair"
     .tableForeach,
   kind "TableFreeze" "Table Freeze" "Makes a table read-only using table.freeze()"
     .tableFreeze,
   kind "TableInsert" "Table Insert" "Inserts a value using table.insert()" .tableInsert,
   kind "TableIsFrozen" "Table Is Frozen" "Checks whether a table is frozen" .tableIsFrozen,
   kind "TableMove" "Table Move" "Copies a range of elements using table.move()" .tableMove,
   kind "TablePack" "Table Pack" "Packs values into a table using table.pack()" .tablePack,
   kind "TableRemove" "Table Remove" "Removes an element using table.remove()" .tableRemove,
   kind "TableSort" "Table Sort" "Sorts a table in place using table.sort()" .tableSort,
   kind "TableUnpack" "Table Unpack" "Returns the elements of a table using table.unpack()"
     .tableUnpack]

/-- Every kind of node. -/
def all : List NodeKind :=
  root ++ basicTypes ++ arithmetic ++ comparison ++ logical ++ controlFlow ++
    variableNodes ++ functionNodes ++ sideEffects ++ tables

end LuauNodes.Catalogue
