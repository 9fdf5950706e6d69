import LuauNodes.Node.Catalogue
import LuauNodes.Socket.Connection

/-!
# Palettes

The kinds of nodes that are available, by their identifiers.  A node of a kind
that is not available has no sockets and is invalid.
-/

namespace LuauNodes

/-- The kinds of nodes that are available, in the order of their registration. -/
structure Palette where
  kinds : OrderedMap String NodeKind

namespace Palette

/-- No kinds. -/
def empty : Palette := ⟨∅⟩

instance : EmptyCollection Palette := ⟨empty⟩

instance : Inhabited Palette := ⟨empty⟩

/-- Every kind that the editor offers. -/
def standard : Palette :=
  ⟨.ofList (Catalogue.all.map fun kind => (kind.id, kind))⟩

/-- The kind with an identifier. -/
def get? (palette : Palette) (id : String) : Option NodeKind := palette.kinds.get? id

/-- Some kind has the identifier. -/
def contains (palette : Palette) (id : String) : Bool := palette.kinds.contains id

/-- The identifiers of the kinds. -/
def ids (palette : Palette) : List String := palette.kinds.keys

/-- The number of kinds. -/
def size (palette : Palette) : Nat := palette.kinds.size

/-- There is no kind. -/
def isEmpty (palette : Palette) : Bool := palette.kinds.isEmpty

/-- Makes a kind available.  One that is available already is replaced only on demand. -/
def register? (palette : Palette) (kind : NodeKind) (replace : Bool) : Option Palette :=
  if palette.contains kind.id && !replace then none
  else some ⟨palette.kinds.insert kind.id kind⟩

/-- The kinds of the standard palette with some identifiers. -/
def ofIds (ids : List String) : Palette :=
  ⟨.ofList (ids.filterMap fun id => (standard.get? id).map fun kind => (id, kind))⟩

/-- The standard palette in the place of an empty one. -/
def orStandard (palette : Palette) : Palette := if palette.isEmpty then standard else palette

/-- The kinds of a category. -/
def inCategory (palette : Palette) (category : String) : List String :=
  (palette.kinds.values.filter fun kind => kind.category == category).map NodeKind.id

/-- The categories in the order of their first kinds, each with its kinds. -/
def categories (palette : Palette) : List (String × List String) :=
  (palette.kinds.values.map NodeKind.category).eraseDups.map fun category =>
    (category, palette.inCategory category)

/-- The sockets of a node with stored data. -/
def sockets (palette : Palette) (kindId : String) (stored : Json) (context : SocketContext) :
    NodeSockets :=
  match palette.get? kindId with
  | none => ⟨[], [], .invalid, [.error (.unknownNodeKind kindId)]⟩
  | some kind => kind.resolve stored context

/-- The notices of one look at the sockets of a node. -/
def socketNotices (palette : Palette) (kindId : String) (stored : Json) : List Notice :=
  match palette.get? kindId with
  | none => []
  | some kind => kind.configNotices stored

/-- Checks an edge between two nodes that are given by their kinds and stored data. -/
def checkConnection
    (palette : Palette)
    (sourceKind : String)
    (sourceStored : Json)
    (sourceHandle : Option String)
    (sourceContext : SocketContext)
    (targetKind : String)
    (targetStored : Json)
    (targetHandle : Option String)
    (targetContext : SocketContext) :
    ConnectionCheck :=
  LuauNodes.checkConnection
    (palette.sockets sourceKind sourceStored sourceContext) sourceHandle
    (palette.sockets targetKind targetStored targetContext) targetHandle
    sourceKind targetKind

end Palette

end LuauNodes
