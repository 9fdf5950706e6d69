import LuauNodes.Record.Reader

/-!
# Modes of nodes

The alternatives that a node's configuration chooses between.  Each mode has a
written form, and is read by exactly that form.
-/

namespace LuauNodes

open LuauNodes.Record

/-- Where an operand comes from: a wired input, or an expression. -/
inductive InputMode where
  | linear
  | expression
  deriving DecidableEq, Inhabited

/-- The written form of an input mode. -/
def InputMode.tag : InputMode → String
  | linear => "linear"
  | expression => "expression"

/-- Reads an input mode. -/
def InputMode.read : Reader InputMode := oneOf [linear, expression] tag

/-- How a value is given: as it is, or by an expression. -/
inductive ValueMode where
  | literal
  | expression
  deriving DecidableEq, Inhabited

/-- The written form of a value mode. -/
def ValueMode.tag : ValueMode → String
  | literal => "literal"
  | expression => "expression"

/-- Reads a value mode. -/
def ValueMode.read : Reader ValueMode := oneOf [literal, expression] tag

/-- What a comparison asks. -/
inductive Comparison where
  | equal
  | notEqual
  | greater
  | less
  | atLeast
  | atMost
  deriving DecidableEq, Inhabited

/-- The written form of a comparison. -/
def Comparison.tag : Comparison → String
  | equal => "=="
  | notEqual => "~="
  | greater => ">"
  | less => "<"
  | atLeast => ">="
  | atMost => "<="

/-- Reads a comparison. -/
def Comparison.read : Reader Comparison :=
  oneOf [equal, notEqual, greater, less, atLeast, atMost] tag

/-- What a for loop runs over: numbers, or the values of an iterator. -/
inductive LoopMode where
  | counting
  | generic
  deriving DecidableEq, Inhabited

/-- The written form of a loop mode. -/
def LoopMode.tag : LoopMode → String
  | counting => "counting"
  | generic => "generic"

/-- Reads a loop mode. -/
def LoopMode.read : Reader LoopMode := oneOf [counting, generic] tag

/-- Whether a new table is filled with a value. -/
inductive CreateMode where
  | empty
  | filled
  deriving DecidableEq, Inhabited

/-- The written form of a creation mode. -/
def CreateMode.tag : CreateMode → String
  | empty => "empty"
  | filled => "filled"

/-- Reads a creation mode. -/
def CreateMode.read : Reader CreateMode := oneOf [empty, filled] tag

/-- Whether a search begins at an index of its own. -/
inductive FindMode where
  | whole
  | withIndex
  deriving DecidableEq, Inhabited

/-- The written form of a search mode. -/
def FindMode.tag : FindMode → String
  | whole => "default"
  | withIndex => "with-index"

/-- Reads a search mode. -/
def FindMode.read : Reader FindMode := oneOf [whole, withIndex] tag

/-- Where a value is inserted. -/
inductive InsertMode where
  | append
  | atIndex
  deriving DecidableEq, Inhabited

/-- The written form of an insertion mode. -/
def InsertMode.tag : InsertMode → String
  | append => "append"
  | atIndex => "at-index"

/-- Reads an insertion mode. -/
def InsertMode.read : Reader InsertMode := oneOf [append, atIndex] tag

/-- Whether elements move within a table or into another one. -/
inductive MoveMode where
  | sameTable
  | differentTable
  deriving DecidableEq, Inhabited

/-- The written form of a move mode. -/
def MoveMode.tag : MoveMode → String
  | sameTable => "same-table"
  | differentTable => "different-table"

/-- Reads a move mode. -/
def MoveMode.read : Reader MoveMode := oneOf [sameTable, differentTable] tag

/-- Which element is removed. -/
inductive RemoveMode where
  | last
  | atIndex
  deriving DecidableEq, Inhabited

/-- The written form of a removal mode. -/
def RemoveMode.tag : RemoveMode → String
  | last => "last"
  | atIndex => "at-index"

/-- Reads a removal mode. -/
def RemoveMode.read : Reader RemoveMode := oneOf [last, atIndex] tag

/-- How elements are ordered. -/
inductive SortMode where
  | ascending
  | custom
  deriving DecidableEq, Inhabited

/-- The written form of a sort mode. -/
def SortMode.tag : SortMode → String
  | ascending => "default"
  | custom => "custom"

/-- Reads a sort mode. -/
def SortMode.read : Reader SortMode := oneOf [ascending, custom] tag

/-- Which elements are unpacked. -/
inductive UnpackMode where
  | all
  | range
  deriving DecidableEq, Inhabited

/-- The written form of an unpacking mode. -/
def UnpackMode.tag : UnpackMode → String
  | all => "all"
  | range => "range"

/-- Reads an unpacking mode. -/
def UnpackMode.read : Reader UnpackMode := oneOf [all, range] tag

end LuauNodes
