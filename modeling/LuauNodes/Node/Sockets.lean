import LuauNodes.Expression.Check
import LuauNodes.Node.Shape
import LuauNodes.Socket.Basic
import LuauNodes.Socket.Context

/-!
# The sockets of nodes

What each shape of node offers for connection, given its configuration and its
surroundings; the symbols that it places inside its own scope; and the symbol
that it declares in the scope that it sits in.
-/

namespace LuauNodes

open Socket (labelled plain)

/-! ## Names and expressions -/

/-- What is wrong with a name that a node gives to a symbol. -/
def nameDiagnostics (name : String) : List Diagnostic :=
  if isReserved name then [.error (.reservedIdentifier name)]
  else if !isIdentifier name then [.error (.invalidIdentifier name)]
  else []

/-- What is wrong with an expression that is typed into a node; a missing one counts as empty. -/
def expressionDiagnostics
    (expression : Option String)
    (context : SocketContext)
    (field : String) :
    List Diagnostic :=
  Expression.check (expression.getD "") field context.checkedNames none

/-! ## Values -/

/-- A value node: an expression is checked only where it is used. -/
def valueSockets
    (type : LuauType)
    (mode : ValueMode)
    (expression : Option String)
    (context : SocketContext) :
    NodeSockets :=
  .reporting [] [labelled "output" "Value" type]
    (match mode with
      | .literal => []
      | .expression => expressionDiagnostics expression context "expression")

/-! ## Operators -/

/-- The inputs of an operator with some number of operands. -/
def operandSockets (type : LuauType) (operands : Nat) : List Socket :=
  [labelled "a" "A" type, labelled "b" "B" type].take operands

/-- An operator: its operands are wired, or an expression takes their place. -/
def operatorSockets
    (operand result : LuauType)
    (operands : Nat)
    (config : OperatorConfig)
    (context : SocketContext) :
    NodeSockets :=
  let outputs := [labelled "result" "Result" result]
  match config.mode with
  | .linear => .sound (operandSockets operand operands) outputs
  | .expression =>
    .reporting [] outputs (expressionDiagnostics config.expression context "expression")

/-! ## Control flow -/

/-- A statement whose condition or value is wired, or given by an expression. -/
def statementSockets
    (flow wired : Socket)
    (outputs : List Socket)
    (field : String)
    (config : StatementConfig)
    (context : SocketContext) :
    NodeSockets :=
  match config.mode with
  | .linear => .sound [flow, wired] outputs
  | .expression =>
    .reporting [flow] outputs (expressionDiagnostics config.expression context field)

/-- Numbers the members of a list from zero. -/
def numbered {α : Type} (items : List α) : List (Nat × α) :=
  (List.range items.length).zip items

/-- The branches of a mode. -/
def branchesOf (mode : ValueMode) (branches : List ConditionBranch) : List ConditionBranch :=
  branches.filter fun branch => branch.mode == mode

/-- What is wrong with the expressions of the later branches. -/
def branchDiagnostics (branches : List ConditionBranch) (context : SocketContext) :
    List Diagnostic :=
  (numbered branches).flatMap fun (place, branch) =>
    match branch.mode with
    | .literal => []
    | .expression =>
      expressionDiagnostics branch.expression context s!"else-if {place + 1} condition"

/-- The inputs of an if node: one for every condition that is wired. -/
def ifElseInputs (config : IfElseConfig) : List Socket :=
  labelled "execute" "Execute" .flow ::
    ((match config.mainCondition.mode with
      | .literal => [labelled "condition" "Condition" .boolean]
      | .expression => []) ++
    (List.range (branchesOf .literal config.elseIfBranches).length).map fun place =>
      labelled s!"condition-{place}" s!"Condition {place + 1}" .boolean)

/-- The outputs of an if node: one for every branch. -/
def ifElseOutputs (config : IfElseConfig) : List Socket :=
  labelled "then" "Then" .flow ::
    (((List.range config.elseIfBranches.length).map fun place =>
      labelled s!"elseif-{place}" s!"Else If {place + 1}" .flow) ++
    (if config.showElse then [labelled "else" "Else" .flow] else []))

/-- An if node. -/
def ifElseSockets (config : IfElseConfig) (context : SocketContext) : NodeSockets :=
  .reporting (ifElseInputs config) (ifElseOutputs config)
    ((match config.mainCondition.mode with
      | .literal => []
      | .expression =>
        expressionDiagnostics config.mainCondition.expression context "if condition") ++
    branchDiagnostics config.elseIfBranches context)

/-- A for loop. -/
def forLoopSockets (config : ForLoopConfig) (context : SocketContext) : NodeSockets :=
  let outputs :=
    [labelled "loop" "Loop Body" .flow, labelled "done" "Done" .flow,
     labelled "index" "Index" .number]
  let names := config.loopVariables.flatMap nameDiagnostics
  match config.mode with
  | .counting =>
    .reporting
      [labelled "execute" "Execute" .flow, labelled "start" "From" .number,
       labelled "end" "To" .number, labelled "step" "Step" .number]
      outputs names
  | .generic =>
    .reporting [labelled "execute" "Execute" .flow] outputs
      (names ++ expressionDiagnostics config.iterableExpression context "iterable")

/-! ## Variables and functions -/

/-- A node that reads a variable has the type of that variable. -/
def variableGetSockets (config : VariableConfig) (context : SocketContext) : NodeSockets :=
  let name := config.name
  let found := if name.isEmpty then none else context.variableNamed? name
  let type := (found.map Symbol.type).getD .any
  .reporting [] [labelled "value" "Value" type]
    (if !name.isEmpty && found.isNone && context.document.isSome then
      [.warning (.variableNotFound name)]
    else [])

/-- A node that sets a variable. -/
def variableSetSockets (config : VariableConfig) : NodeSockets :=
  let name := config.name
  .reporting
    [labelled "prev" "Prev" .flow, labelled "value" "Value" .any]
    [labelled "next" "Next" .flow]
    (if name.isEmpty then [] else nameDiagnostics name)

/-- What is wrong with parameters: bad names, and names that occur before. -/
def parameterDiagnostics (seen : List String) (place : Nat) : List Parameter → List Diagnostic
  | [] => []
  | parameter :: rest =>
    nameDiagnostics parameter.name ++
      (if seen.contains parameter.name then
        [.error (.invalidConfiguration "FunctionDefinition"
          s!"parameter {place + 1} repeats the name '{parameter.name}'.")]
      else []) ++
      parameterDiagnostics (parameter.name :: seen) (place + 1) rest

/-- A node that defines a function. -/
def functionDefinitionSockets (config : FunctionConfig) : NodeSockets :=
  .reporting [labelled "prev" "Prev" .flow]
    [labelled "body" "Body" .flow, labelled "next" "Next" .flow]
    ((if config.name.isEmpty then [] else nameDiagnostics config.name) ++
      parameterDiagnostics [] 0 config.parameters)

/-- The inputs that a called function wants, one for each parameter. -/
def parameterSockets (parameters : List Parameter) : List Socket :=
  (numbered parameters).map fun (place, parameter) =>
    labelled s!"param-{place}" parameter.name parameter.type

/-- A call has the sockets of the function that it names.  While there is no such function the
node is degraded, and without a name it calls nothing. -/
def functionCallSockets (config : CallConfig) (context : SocketContext) : NodeSockets :=
  let name := config.name
  let callee := if name.isEmpty then none else context.functionNamed? name
  match callee.bind Symbol.signature with
  | some signature =>
    .sound (labelled "prev" "Prev" .flow :: parameterSockets signature.parameters)
      [labelled "next" "Next" .flow, labelled "result" "Result" signature.returnType]
  | none =>
    let inputs := [labelled "prev" "Prev" .flow]
    let outputs := [labelled "next" "Next" .flow, labelled "result" "Result" .any]
    if name.isEmpty then .sound inputs outputs
    else ⟨inputs, outputs, .degraded, [.warning (.functionNotFound name)]⟩

/-! ## Tables -/

/-- The execution order and the table that a statement on a table starts with. -/
def tableStatement : List Socket :=
  [labelled "prev" "Prev" .flow, labelled "table" "Table" .table]

/-- The execution order behind a statement. -/
def nextFlow : Socket := labelled "next" "Next" .flow

/-- The inputs for packed values. -/
def packSockets (count : Nat) : List Socket :=
  (List.range count).map fun place => labelled s!"arg-{place}" s!"Arg {place + 1}" .any

/-! ## All shapes -/

namespace Shape

/-- The sockets of a node of a shape. -/
def sockets : (shape : Shape) → shape.Config → SocketContext → NodeSockets
  | start, _, _ => .sound [] [plain "output" .flow]
  | finish, _, _ => .sound [plain "input" .any] []
  | nil, _, _ => .sound [] [labelled "output" "Value" .nil]
  | string, config, context => valueSockets .string config.mode config.expression context
  | number, config, context => valueSockets .number config.mode config.expression context
  | boolean, config, context => valueSockets .boolean config.mode config.expression context
  | table, _, _ => .sound [plain "input" .table] [plain "output" .table]
  | vector, _, _ =>
    .sound [plain "x-input" .number, plain "y-input" .number, plain "z-input" .number]
      [plain "output" .vector]
  | operator operand result operands, config, context =>
    operatorSockets operand result operands config context
  | ifElse, config, context => ifElseSockets config context
  | condition, _, _ =>
    .sound [labelled "a" "A" .any, labelled "b" "B" .any] [labelled "result" "Result" .boolean]
  | whileLoop, config, context =>
    statementSockets (labelled "execute" "Execute" .flow)
      (labelled "condition" "Condition" .boolean)
      [labelled "loop" "Loop Body" .flow, labelled "done" "Done" .flow] "loop condition" config
      context
  | repeatUntil, config, context =>
    statementSockets (labelled "prev" "Prev" .flow) (labelled "condition" "Condition" .boolean)
      [labelled "loop" "Loop Body" .flow, nextFlow] "until condition" config context
  | forLoop, config, context => forLoopSockets config context
  | breakLoop, _, _ => .sound [labelled "execute" "Execute" .flow] []
  | continueLoop, _, _ => .sound [labelled "prev" "Prev" .flow] []
  | returnValue, config, context =>
    statementSockets (labelled "execute" "Execute" .flow) (labelled "value" "Value" .any) []
      "return" config context
  | variableGet, config, context => variableGetSockets config context
  | variableSet, config, _ => variableSetSockets config
  | functionDefinition, config, _ => functionDefinitionSockets config
  | functionCall, config, context => functionCallSockets config context
  | print, _, _ =>
    .sound [labelled "prev" "Prev" .flow, labelled "value" "Value" .any] [nextFlow]
  | tableClear, _, _ => .sound tableStatement [nextFlow]
  | tableClone, _, _ =>
    .sound [labelled "table" "Table" .table] [labelled "result" "Cloned" .table]
  | tableConcat, config, _ =>
    .sound
      (labelled "table" "Table" .table ::
        (if config.showOptionalParams then
          [labelled "sep" "Separator" .string, labelled "f" "First Index" .number,
           labelled "t" "Last Index" .number]
        else []))
      [labelled "result" "Result" .string]
  | tableCreate, config, _ =>
    .sound
      (labelled "size" "Size" .number ::
        (match config.mode with
          | .empty => []
          | .filled => [labelled "value" "Initial Value" .any]))
      [labelled "result" "Result" .table]
  | tableFind, config, _ =>
    .sound
      ([labelled "table" "Table" .table, labelled "value" "Value" .any] ++
        (match config.mode with
          | .whole => []
          | .withIndex => [labelled "init" "Start Index" .number]))
      [labelled "result" "Index" .number]
  | tableForeach, config, _ =>
    .sound (tableStatement ++ [labelled "fn" "Function" .any])
      (nextFlow :: (if config.hasReturn then [labelled "result" "Result" .any] else []))
  | tableFreeze, _, _ =>
    .sound tableStatement [nextFlow, labelled "frozen" "Frozen" .table]
  | tableInsert, config, _ =>
    .sound
      (tableStatement ++
        (match config.mode with
          | .append => []
          | .atIndex => [labelled "index" "Index" .number]) ++
        [labelled "value" "Value" .any])
      [nextFlow]
  | tableIsFrozen, _, _ =>
    .sound [labelled "table" "Table" .table] [labelled "result" "Result" .boolean]
  | tableMove, config, _ =>
    .sound
      ([labelled "prev" "Prev" .flow, labelled "source" "Source" .table,
        labelled "first" "First Index" .number, labelled "last" "Last Index" .number,
        labelled "dest" "Dest Index" .number] ++
        (match config.mode with
          | .sameTable => []
          | .differentTable => [labelled "target" "Target" .table]))
      [nextFlow]
  | tablePack, config, _ =>
    .sound (labelled "prev" "Prev" .flow :: packSockets config.argCount)
      [nextFlow, labelled "packed" "Packed" .table]
  | tableRemove, config, _ =>
    .sound
      (tableStatement ++
        (match config.mode with
          | .last => []
          | .atIndex => [labelled "index" "Index" .number]))
      [nextFlow, labelled "value" "Removed" .any]
  | tableSort, config, _ =>
    .sound
      (tableStatement ++
        (match config.sortMode with
          | .ascending => []
          | .custom => [labelled "compare" "Compare Fn" .any]))
      [nextFlow]
  | tableUnpack, config, _ =>
    .sound
      (tableStatement ++
        (match config.mode with
          | .all => []
          | .range => [labelled "f" "First" .number, labelled "t" "Last" .number]))
      [nextFlow, labelled "values" "Values" .any]

/-- A shape that places symbols inside its own scope. -/
def hasScopeSymbols : Shape → Bool
  | forLoop | functionDefinition => true
  | _ => false

/-- The symbols that a node places inside its own scope. -/
def scopeSymbols : (shape : Shape) → shape.Config → List Symbol
  | forLoop, config =>
    let type :=
      match config.mode with
      | .counting => LuauType.number
      | .generic => LuauType.any
    (config.loopVariables.filter isDeclarableName).map fun name =>
      { Symbol.ofVariable name type with description := some "Loop variable" }
  | functionDefinition, config =>
    (config.parameters.filter fun parameter => isDeclarableName parameter.name).map
      fun parameter =>
        { Symbol.ofVariable parameter.name parameter.type with description := some "Parameter" }
  | _, _ => []

/-- A shape that declares a symbol in the scope that it sits in, and the namespace of it. -/
def declaration? : Shape → Option Namespace
  | variableSet => some .vars
  | functionDefinition => some .functions
  | _ => none

/-- The symbol that a node declares in the scope that it sits in.  A set variable takes the type
of what feeds it. -/
def declaredSymbol : (shape : Shape) → shape.Config → SocketContext → Option Symbol
  | variableSet, config, context =>
    if isDeclarableName config.name then
      some (.ofVariable config.name ((context.feed? "value").getD .any))
    else none
  | functionDefinition, config, _ =>
    if isDeclarableName config.name then
      some (.ofFunction config.name ⟨config.parameters, config.returnType, none⟩)
    else none
  | _, _, _ => none

end Shape

end LuauNodes
