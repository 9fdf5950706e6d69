import LuauNodes.Node.Mode
import LuauNodes.Symbol

/-!
# Configurations of nodes

What can be set on a node, kind by kind.  A configuration is read from the
fields that the editor stores, and every field that is absent has a value of its
own, so that a node without any configuration is complete.
-/

namespace LuauNodes

open LuauNodes.Record

/-- A type of configurations: how one is read, what it is where nothing is set, and its fields. -/
class NodeConfig (α : Type) where
  /-- The configuration where nothing is set. -/
  initial : α
  /-- Reads a configuration from stored fields. -/
  read : Fields → Checked α
  /-- The fields of a configuration. -/
  dump : α → List (String × Json)

/-- Reads a text or nothing under a field name. -/
def optionalText (name : String) (fields : Fields) : Checked (Option String) :=
  optional (.camel name) none (nullable text) fields

/-! ## No settings -/

/-- Nothing can be set. -/
structure NoSettings where
  deriving Inhabited

instance : NodeConfig NoSettings where
  initial := {}
  read _ := .ok {}
  dump _ := []

/-! ## Values -/

/-- A value that is given as it is or by an expression. -/
structure LiteralConfig (α : Type) where
  mode : ValueMode
  expression : Option String
  value : α

/-- Reads the settings of a value node. -/
def LiteralConfig.read {α : Type} (absent : α) (value : Reader α) (fields : Fields) :
    Checked (LiteralConfig α) :=
  LiteralConfig.mk
    <$> optional (.camel "mode") .literal ValueMode.read fields
    <*> optionalText "expression" fields
    <*> optional (.camel "value") absent value fields

/-- The fields of a value node. -/
def LiteralConfig.dump {α : Type} (value : α → Json) (config : LiteralConfig α) :
    List (String × Json) :=
  [("mode", .text config.mode.tag), ("expression", .ofText? config.expression),
   ("value", value config.value)]

/-- The text of a string node. -/
abbrev StringConfig := LiteralConfig (Option String)

instance : NodeConfig StringConfig where
  initial := ⟨.literal, none, none⟩
  read := LiteralConfig.read none (nullable text)
  dump := LiteralConfig.dump Json.ofText?

/-- The number of a number node: it may be given as text, and is zero until it is set. -/
inductive NumberValue where
  | unset
  | nothing
  | number (value : Binary64)
  | text (value : String)

/-- Reads the number of a number node. -/
def NumberValue.read : Reader NumberValue
  | .null => .ok .nothing
  | .text value => .ok (.text value)
  | value =>
    match real value with
    | .ok parsed => .ok (.number parsed)
    | .bad faults =>
      .bad ((Checked.within "float" (.bad faults : Checked Unit)).faults ++
        (Checked.within "str" (Record.text value)).faults)

/-- A number node's number as JSON. -/
def NumberValue.dump : NumberValue → Json
  | unset => .int 0
  | nothing => .null
  | number value => .float value
  | text value => .text value

/-- The number of a number node. -/
abbrev NumberConfig := LiteralConfig NumberValue

instance : NodeConfig NumberConfig where
  initial := ⟨.literal, none, .unset⟩
  read := LiteralConfig.read .unset NumberValue.read
  dump := LiteralConfig.dump NumberValue.dump

/-- The truth value of a boolean node. -/
abbrev BooleanConfig := LiteralConfig Bool

instance : NodeConfig BooleanConfig where
  initial := ⟨.literal, none, false⟩
  read := LiteralConfig.read false boolean
  dump := LiteralConfig.dump Json.bool

/-- The value of a table entry. -/
inductive EntryValue where
  | boolean (value : Bool)
  | number (value : Binary64)
  | text (value : String)

/-- Reads the value of a table entry. -/
def EntryValue.read : Reader EntryValue
  | .bool value => .ok (.boolean value)
  | .text value => .ok (.text value)
  | value =>
    match real value with
    | .ok parsed => .ok (.number parsed)
    | .bad faults =>
      .bad ((Checked.within "bool" (Record.boolean value)).faults ++
        (Checked.within "float" (.bad faults : Checked Unit)).faults ++
        (Checked.within "str" (Record.text value)).faults)

/-- A table entry's value as JSON. -/
def EntryValue.dump : EntryValue → Json
  | boolean value => .bool value
  | number value => .float value
  | text value => .text value

/-- An entry of a table node. -/
structure TableEntry where
  key : String
  value : EntryValue

/-- Reads an entry of a table node. -/
def TableEntry.read : Reader TableEntry :=
  record "TableEntry" fun fields =>
    TableEntry.mk
      <$> required (.same "key") text fields
      <*> required (.same "value") EntryValue.read fields

/-- The entries of a table node. -/
structure TableConfig where
  entries : List TableEntry

instance : NodeConfig TableConfig where
  initial := ⟨[]⟩
  read fields := TableConfig.mk <$> optional (.camel "entries") [] (list TableEntry.read) fields
  dump config :=
    [("entries", .list (config.entries.map fun entry =>
      .object [("key", .text entry.key), ("value", entry.value.dump)]))]

/-- The coordinates of a vector node; one that is not set is zero. -/
structure VectorConfig where
  x : Option Binary64
  y : Option Binary64
  z : Option Binary64

/-- A coordinate as JSON. -/
def VectorConfig.coordinate : Option Binary64 → Json
  | some value => .float value
  | none => .int 0

instance : NodeConfig VectorConfig where
  initial := ⟨none, none, none⟩
  read fields :=
    VectorConfig.mk
      <$> optional (.camel "x") none (fun value => (real value).map some) fields
      <*> optional (.camel "y") none (fun value => (real value).map some) fields
      <*> optional (.camel "z") none (fun value => (real value).map some) fields
  dump config :=
    [("x", VectorConfig.coordinate config.x), ("y", VectorConfig.coordinate config.y),
     ("z", VectorConfig.coordinate config.z)]

/-! ## Operators and statements -/

/-- Operands that are wired or replaced by an expression. -/
structure OperatorConfig where
  mode : InputMode
  expression : Option String

instance : NodeConfig OperatorConfig where
  initial := ⟨.linear, none⟩
  read fields :=
    OperatorConfig.mk
      <$> optional (.camel "mode") .linear InputMode.read fields
      <*> optionalText "expression" fields
  dump config :=
    [("mode", .text config.mode.tag), ("expression", .ofText? config.expression)]

/-- A statement whose condition or value is wired or given by an expression. -/
structure StatementConfig where
  mode : InputMode
  expression : Option String
  description : Option String

instance : NodeConfig StatementConfig where
  initial := ⟨.linear, none, none⟩
  read fields :=
    StatementConfig.mk
      <$> optional (.camel "mode") .linear InputMode.read fields
      <*> optionalText "expression" fields
      <*> optionalText "description" fields
  dump config :=
    [("mode", .text config.mode.tag), ("expression", .ofText? config.expression),
     ("description", .ofText? config.description)]

/-- A jump with a note. -/
structure JumpConfig where
  description : Option String

instance : NodeConfig JumpConfig where
  initial := ⟨none⟩
  read fields := JumpConfig.mk <$> optionalText "description" fields
  dump config := [("description", .ofText? config.description)]

/-- A condition of an if node. -/
structure ConditionBranch where
  id : String
  mode : ValueMode
  expression : Option String

/-- The condition where nothing is set. -/
def ConditionBranch.initial : ConditionBranch := ⟨"main", .literal, none⟩

/-- Reads a condition. -/
def ConditionBranch.read : Reader ConditionBranch :=
  record "ConditionBranch" fun fields =>
    ConditionBranch.mk
      <$> optional (.same "id") "main" text fields
      <*> optional (.same "mode") .literal ValueMode.read fields
      <*> optional (.same "expression") none (nullable text) fields

/-- A condition as JSON. -/
def ConditionBranch.dump (branch : ConditionBranch) : Json :=
  .object
    [("id", .text branch.id), ("mode", .text branch.mode.tag),
     ("expression", .ofText? branch.expression)]

/-- The conditions of an if node. -/
structure IfElseConfig where
  mainCondition : ConditionBranch
  elseIfBranches : List ConditionBranch
  showElse : Bool

instance : NodeConfig IfElseConfig where
  initial := ⟨.initial, [], true⟩
  read fields :=
    IfElseConfig.mk
      <$> optional (.camel "main_condition") .initial ConditionBranch.read fields
      <*> optional (.camel "else_if_branches") [] (list ConditionBranch.read) fields
      <*> optional (.camel "show_else") true boolean fields
  dump config :=
    [("main_condition", config.mainCondition.dump),
     ("else_if_branches", .list (config.elseIfBranches.map ConditionBranch.dump)),
     ("show_else", .bool config.showElse)]

/-- The comparison of a condition node. -/
structure ConditionConfig where
  comparisonType : Comparison

instance : NodeConfig ConditionConfig where
  initial := ⟨.equal⟩
  read fields :=
    ConditionConfig.mk <$> optional (.camel "comparison_type") .equal Comparison.read fields
  dump config := [("comparison_type", .text config.comparisonType.tag)]

/-- What a for loop runs over, and the names of its variables. -/
structure ForLoopConfig where
  mode : LoopMode
  variableName : String
  startValue : Option String
  endValue : Option String
  stepValue : Option String
  iterableExpression : Option String
  description : Option String

namespace ForLoopConfig

/-- The name of a loop variable that is not named. -/
def defaultVariable : String := "i"

/-- The names of the loop variables: one when counting, otherwise the items between commas. -/
def loopVariables (config : ForLoopConfig) : List String :=
  let stripped := Text.strip config.variableName
  let names := if stripped.isEmpty then defaultVariable else stripped
  match config.mode with
  | .counting => [names]
  | .generic => ((names.splitOn ",").map Text.strip).filter fun name => !name.isEmpty

end ForLoopConfig

instance : NodeConfig ForLoopConfig where
  initial := ⟨.counting, ForLoopConfig.defaultVariable, none, none, none, none, none⟩
  read fields :=
    ForLoopConfig.mk
      <$> optional (.camel "mode") .counting LoopMode.read fields
      <*> optional (.camel "variable_name") ForLoopConfig.defaultVariable text fields
      <*> optionalText "start_value" fields
      <*> optionalText "end_value" fields
      <*> optionalText "step_value" fields
      <*> optionalText "iterable_expression" fields
      <*> optionalText "description" fields
  dump config :=
    [("mode", .text config.mode.tag), ("variable_name", .text config.variableName),
     ("start_value", .ofText? config.startValue), ("end_value", .ofText? config.endValue),
     ("step_value", .ofText? config.stepValue),
     ("iterable_expression", .ofText? config.iterableExpression),
     ("description", .ofText? config.description)]

/-! ## Names -/

/-- The variable that a node reads or sets. -/
structure VariableConfig where
  variableName : Option String

/-- The name without the blanks around it; empty where none is set. -/
def VariableConfig.name (config : VariableConfig) : String :=
  Text.strip (config.variableName.getD "")

instance : NodeConfig VariableConfig where
  initial := ⟨none⟩
  read fields := VariableConfig.mk <$> optionalText "variable_name" fields
  dump config := [("variable_name", .ofText? config.variableName)]

/-- The function that a node calls. -/
structure CallConfig where
  functionName : Option String

/-- The name without the blanks around it; empty where none is set. -/
def CallConfig.name (config : CallConfig) : String :=
  Text.strip (config.functionName.getD "")

instance : NodeConfig CallConfig where
  initial := ⟨none⟩
  read fields := CallConfig.mk <$> optionalText "function_name" fields
  dump config := [("function_name", .ofText? config.functionName)]

/-- Reads a type leniently: what is no tag counts as the wildcard. -/
def lenientType : Reader LuauType
  | .text tag => .ok (.ofText tag)
  | _ => .ok .any

/-- Reads a return type leniently; nothing counts as nil. -/
def lenientReturnType : Reader LuauType
  | .null => .ok .nil
  | value => lenientType value

/-- Reads a parameter of a function node. -/
def readParameter : Reader Parameter :=
  record "ParameterConfig" fun fields =>
    Parameter.mk
      <$> required (.same "name") text fields
      <*> optional (.same "type") LuauType.any lenientType fields

/-- The function that a node defines. -/
structure FunctionConfig where
  functionName : String
  parameters : List Parameter
  returnType : LuauType

/-- The name without the blanks around it. -/
def FunctionConfig.name (config : FunctionConfig) : String := Text.strip config.functionName

instance : NodeConfig FunctionConfig where
  initial := ⟨"", [], .nil⟩
  read fields :=
    FunctionConfig.mk
      <$> optional (.camel "function_name") "" text fields
      <*> optional (.camel "parameters") [] (list readParameter) fields
      <*> optional (.camel "return_type") LuauType.nil lenientReturnType fields
  dump config :=
    [("function_name", .text config.functionName),
     ("parameters", .list (config.parameters.map fun parameter =>
       .object [("name", .text parameter.name), ("type", .text parameter.type.tag)])),
     ("return_type", .text config.returnType.tag)]

/-- The text that a print node shows where nothing is wired. -/
structure PrintConfig where
  value : Option String

instance : NodeConfig PrintConfig where
  initial := ⟨none⟩
  read fields := PrintConfig.mk <$> optionalText "value" fields
  dump config := [("value", .ofText? config.value)]

/-! ## Tables -/

/-- What joins the elements of a table, and the range that is joined. -/
structure TableConcatConfig where
  showOptionalParams : Bool
  sep : Option String
  f : Option String
  t : Option String

instance : NodeConfig TableConcatConfig where
  initial := ⟨false, none, none, none⟩
  read fields :=
    TableConcatConfig.mk
      <$> optional (.camel "show_optional_params") false boolean fields
      <*> optionalText "sep" fields
      <*> optionalText "f" fields
      <*> optionalText "t" fields
  dump config :=
    [("show_optional_params", .bool config.showOptionalParams), ("sep", .ofText? config.sep),
     ("f", .ofText? config.f), ("t", .ofText? config.t)]

/-- How a table is created. -/
structure TableCreateConfig where
  mode : CreateMode
  initialValue : Option String

instance : NodeConfig TableCreateConfig where
  initial := ⟨.empty, none⟩
  read fields :=
    TableCreateConfig.mk
      <$> optional (.camel "mode") .empty CreateMode.read fields
      <*> optionalText "initial_value" fields
  dump config :=
    [("mode", .text config.mode.tag), ("initial_value", .ofText? config.initialValue)]

/-- How a table is searched. -/
structure TableFindConfig where
  mode : FindMode

instance : NodeConfig TableFindConfig where
  initial := ⟨.whole⟩
  read fields := TableFindConfig.mk <$> optional (.camel "mode") .whole FindMode.read fields
  dump config := [("mode", .text config.mode.tag)]

/-- Whether a traversal of a table has a result. -/
structure TableForeachConfig where
  hasReturn : Bool

instance : NodeConfig TableForeachConfig where
  initial := ⟨false⟩
  read fields := TableForeachConfig.mk <$> optional (.camel "has_return") false boolean fields
  dump config := [("has_return", .bool config.hasReturn)]

/-- Where a table takes a new value. -/
structure TableInsertConfig where
  mode : InsertMode

instance : NodeConfig TableInsertConfig where
  initial := ⟨.append⟩
  read fields := TableInsertConfig.mk <$> optional (.camel "mode") .append InsertMode.read fields
  dump config := [("mode", .text config.mode.tag)]

/-- Where elements of a table are moved. -/
structure TableMoveConfig where
  mode : MoveMode

instance : NodeConfig TableMoveConfig where
  initial := ⟨.sameTable⟩
  read fields := TableMoveConfig.mk <$> optional (.camel "mode") .sameTable MoveMode.read fields
  dump config := [("mode", .text config.mode.tag)]

/-- The most values that can be packed. -/
def maxPackedValues : Int := 64

/-- How many values are packed. -/
structure TablePackConfig where
  argCount : Nat

instance : NodeConfig TablePackConfig where
  initial := ⟨1⟩
  read fields :=
    TablePackConfig.mk
      <$> optional (.camel "arg_count") 1
        (fun value => (integerBetween 0 maxPackedValues value).map Int.toNat) fields
  dump config := [("arg_count", .int (config.argCount : Nat))]

/-- Which element of a table is removed. -/
structure TableRemoveConfig where
  mode : RemoveMode

instance : NodeConfig TableRemoveConfig where
  initial := ⟨.last⟩
  read fields := TableRemoveConfig.mk <$> optional (.camel "mode") .last RemoveMode.read fields
  dump config := [("mode", .text config.mode.tag)]

/-- How a table is sorted. -/
structure TableSortConfig where
  sortMode : SortMode
  compareFunction : Option String

instance : NodeConfig TableSortConfig where
  initial := ⟨.ascending, none⟩
  read fields :=
    TableSortConfig.mk
      <$> optional (.camel "sort_mode") .ascending SortMode.read fields
      <*> optionalText "compare_function" fields
  dump config :=
    [("sort_mode", .text config.sortMode.tag),
     ("compare_function", .ofText? config.compareFunction)]

/-- Which elements of a table are unpacked. -/
structure TableUnpackConfig where
  mode : UnpackMode

instance : NodeConfig TableUnpackConfig where
  initial := ⟨.all⟩
  read fields := TableUnpackConfig.mk <$> optional (.camel "mode") .all UnpackMode.read fields
  dump config := [("mode", .text config.mode.tag)]

end LuauNodes
