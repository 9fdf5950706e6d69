import LuauNodes.Collection.OrderedMap
import LuauNodes.Registry.Basic

/-!
# Contexts of sockets

What the sockets of a node may depend on besides its configuration: the symbols
that are visible from it, and the types that feed its inputs.  A context that
belongs to no document knows no names, and names are not checked in it.
-/

namespace LuauNodes

/-- The types that feed the inputs of a node. -/
abbrev Feeds := OrderedMap String LuauType

/-- The surroundings of a node. -/
structure SocketContext where
  functions : List Symbol
  vars : List Symbol
  visibleNames : List String
  feeds : Feeds
  document : Option String

namespace SocketContext

/-- No surroundings. -/
def empty : SocketContext := ⟨[], [], [], ∅, none⟩

instance : Inhabited SocketContext := ⟨empty⟩

/-- The first function of a name. -/
def functionNamed? (context : SocketContext) (name : String) : Option Symbol :=
  context.functions.find? fun symbol => symbol.name == name

/-- The first variable of a name. -/
def variableNamed? (context : SocketContext) (name : String) : Option Symbol :=
  context.vars.find? fun symbol => symbol.name == name

/-- The type that feeds an input. -/
def feed? (context : SocketContext) (socketId : String) : Option LuauType :=
  context.feeds.get? socketId

/-- The names that expressions may read, where they are known. -/
def checkedNames (context : SocketContext) : Option (List String) :=
  if context.document.isSome then some context.visibleNames else none

/-- The surroundings of a node that sits in a scope of a document. -/
def ofRegistry
    (registry : Registry)
    (document : String)
    (scopeId : Option String)
    (feeds : Feeds) :
    Except TreeFault SocketContext :=
  match registry.visible .vars document scopeId,
    registry.visible .functions document scopeId with
  | .ok vars, .ok functions =>
    .ok ⟨functions, vars, (vars ++ functions).map Symbol.name, feeds, some document⟩
  | .error fault, _ => .error fault
  | _, .error fault => .error fault

end SocketContext

end LuauNodes
