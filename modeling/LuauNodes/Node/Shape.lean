import LuauNodes.Node.Config

/-!
# Shapes of nodes

The different ways in which nodes behave.  A shape fixes the type of a node's
configuration; what its sockets are, and what it declares, follows from both.
-/

namespace LuauNodes

/-- A way in which nodes behave. -/
inductive Shape where
  | start
  | finish
  | nil
  | string
  | number
  | boolean
  | table
  | vector
  | operator (operand result : LuauType) (operands : Nat)
  | ifElse
  | condition
  | whileLoop
  | repeatUntil
  | forLoop
  | breakLoop
  | continueLoop
  | returnValue
  | variableGet
  | variableSet
  | functionDefinition
  | functionCall
  | print
  | tableClear
  | tableClone
  | tableConcat
  | tableCreate
  | tableFind
  | tableForeach
  | tableFreeze
  | tableInsert
  | tableIsFrozen
  | tableMove
  | tablePack
  | tableRemove
  | tableSort
  | tableUnpack
  deriving DecidableEq, Inhabited

namespace Shape

/-- The configurations of a shape. -/
abbrev Config : Shape → Type
  | start | finish | nil => NoSettings
  | string => StringConfig
  | number => NumberConfig
  | boolean => BooleanConfig
  | table => TableConfig
  | vector => VectorConfig
  | operator _ _ _ => OperatorConfig
  | ifElse => IfElseConfig
  | condition => ConditionConfig
  | whileLoop | repeatUntil | returnValue => StatementConfig
  | forLoop => ForLoopConfig
  | breakLoop | continueLoop => JumpConfig
  | variableGet | variableSet => VariableConfig
  | functionDefinition => FunctionConfig
  | functionCall => CallConfig
  | print => PrintConfig
  | tableClear | tableClone | tableFreeze | tableIsFrozen => NoSettings
  | tableConcat => TableConcatConfig
  | tableCreate => TableCreateConfig
  | tableFind => TableFindConfig
  | tableForeach => TableForeachConfig
  | tableInsert => TableInsertConfig
  | tableMove => TableMoveConfig
  | tablePack => TablePackConfig
  | tableRemove => TableRemoveConfig
  | tableSort => TableSortConfig
  | tableUnpack => TableUnpackConfig

/-- How the configurations of a shape are read and shown. -/
@[reducible]
def config : (shape : Shape) → NodeConfig shape.Config
  | start | finish | nil => inferInstanceAs (NodeConfig NoSettings)
  | string => inferInstanceAs (NodeConfig StringConfig)
  | number => inferInstanceAs (NodeConfig NumberConfig)
  | boolean => inferInstanceAs (NodeConfig BooleanConfig)
  | table => inferInstanceAs (NodeConfig TableConfig)
  | vector => inferInstanceAs (NodeConfig VectorConfig)
  | operator _ _ _ => inferInstanceAs (NodeConfig OperatorConfig)
  | ifElse => inferInstanceAs (NodeConfig IfElseConfig)
  | condition => inferInstanceAs (NodeConfig ConditionConfig)
  | whileLoop | repeatUntil | returnValue => inferInstanceAs (NodeConfig StatementConfig)
  | forLoop => inferInstanceAs (NodeConfig ForLoopConfig)
  | breakLoop | continueLoop => inferInstanceAs (NodeConfig JumpConfig)
  | variableGet | variableSet => inferInstanceAs (NodeConfig VariableConfig)
  | functionDefinition => inferInstanceAs (NodeConfig FunctionConfig)
  | functionCall => inferInstanceAs (NodeConfig CallConfig)
  | print => inferInstanceAs (NodeConfig PrintConfig)
  | tableClear | tableClone | tableFreeze | tableIsFrozen =>
    inferInstanceAs (NodeConfig NoSettings)
  | tableConcat => inferInstanceAs (NodeConfig TableConcatConfig)
  | tableCreate => inferInstanceAs (NodeConfig TableCreateConfig)
  | tableFind => inferInstanceAs (NodeConfig TableFindConfig)
  | tableForeach => inferInstanceAs (NodeConfig TableForeachConfig)
  | tableInsert => inferInstanceAs (NodeConfig TableInsertConfig)
  | tableMove => inferInstanceAs (NodeConfig TableMoveConfig)
  | tablePack => inferInstanceAs (NodeConfig TablePackConfig)
  | tableRemove => inferInstanceAs (NodeConfig TableRemoveConfig)
  | tableSort => inferInstanceAs (NodeConfig TableSortConfig)
  | tableUnpack => inferInstanceAs (NodeConfig TableUnpackConfig)

/-- The configuration of a shape where nothing is set. -/
def initial (shape : Shape) : shape.Config := shape.config.initial

/-- Reads the configuration of a shape. -/
def read (shape : Shape) (fields : Record.Fields) : Record.Checked shape.Config :=
  shape.config.read fields

/-- The fields of a configuration. -/
def dump (shape : Shape) (config : shape.Config) : List (String × Json) :=
  shape.config.dump config

end Shape

end LuauNodes
