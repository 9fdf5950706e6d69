import LuauNodes.Text.Blank
import LuauNodes.Text.LowerCase

/-!
# Luau types

The closed set of type tags that symbols and sockets carry.  Reading a tag never
fails: what is not a tag counts as the wildcard.  Two sockets may be connected
when both carry execution order, or when neither does and their types are equal
or one of them is the wildcard.
-/

namespace LuauNodes

/-- A type tag.  `flow` marks an edge of execution order, which carries no data. -/
inductive LuauType where
  | nil
  | string
  | number
  | boolean
  | table
  | function
  | thread
  | userdata
  | vector
  | buffer
  | any
  | flow
  deriving DecidableEq, Inhabited

namespace LuauType

/-- Every type tag, in the order in which they are listed to users. -/
def all : List LuauType :=
  [nil, string, number, boolean, table, function, thread, userdata, vector, buffer, any, flow]

/-- The written form of a tag. -/
def tag : LuauType → String
  | nil => "nil"
  | string => "string"
  | number => "number"
  | boolean => "boolean"
  | table => "table"
  | function => "function"
  | thread => "thread"
  | userdata => "userdata"
  | vector => "vector"
  | buffer => "buffer"
  | any => "any"
  | flow => "flow"

/-- The type with exactly the given tag. -/
def ofTag? (text : String) : Option LuauType :=
  all.find? fun type => type.tag == text

/-- The type that a text names, blanks at its ends and case aside; any other text names the
wildcard. -/
def ofText (text : String) : LuauType :=
  (ofTag? (Text.lowerCase (Text.strip text))).getD any

/-- The tag of execution order. -/
def isFlow (type : LuauType) : Bool := type == flow

/-- The types that data can have. -/
def dataTypes : List LuauType := all.filter fun type => !type.isFlow

/-- An output of the first type may feed an input of the second. -/
def connects (source target : LuauType) : Bool :=
  if source.isFlow || target.isFlow then source.isFlow && target.isFlow
  else source == any || target == any || source == target

theorem mem_all (type : LuauType) : type ∈ all := by
  cases type <;> decide

end LuauType

end LuauNodes
