import LuauNodes.Diagnostic
import LuauNodes.LuauType

/-!
# Sockets

The typed connection points of a node.  An input of the wildcard type may show
the type of what is connected to it; that refined type is for display alone and
never decides whether an edge is allowed.
-/

namespace LuauNodes

/-- A connection point of a node. -/
structure Socket where
  id : String
  label : Option String
  type : LuauType
  refined : Option LuauType
  deriving DecidableEq, Inhabited

namespace Socket

/-- A socket with a label. -/
def labelled (id label : String) (type : LuauType) : Socket := ⟨id, some label, type, none⟩

/-- A socket that is labelled by its identifier. -/
def plain (id : String) (type : LuauType) : Socket := ⟨id, none, type, none⟩

/-- The type that is shown to users. -/
def displayType (socket : Socket) : LuauType := socket.refined.getD socket.type

/-- The label that is shown to users. -/
def displayLabel (socket : Socket) : String :=
  match socket.label with
  | some label => if label.isEmpty then socket.id else label
  | none => socket.id

end Socket

/-- How usable a node is. -/
inductive NodeStatus where
  | ok
  | degraded
  | invalid
  deriving DecidableEq, Inhabited

namespace NodeStatus

/-- The written form of a status. -/
def tag : NodeStatus → String
  | ok => "ok"
  | degraded => "degraded"
  | invalid => "invalid"

/-- How bad a status is. -/
def rank : NodeStatus → Nat
  | ok => 0
  | degraded => 1
  | invalid => 2

/-- The worse of two statuses. -/
def worst (left right : NodeStatus) : NodeStatus :=
  if right.rank ≤ left.rank then left else right

end NodeStatus

/-- The sockets of a node with what is wrong with it. -/
structure NodeSockets where
  inputs : List Socket
  outputs : List Socket
  status : NodeStatus
  diagnostics : List Diagnostic
  deriving DecidableEq

namespace NodeSockets

/-- Sockets without anything wrong. -/
def sound (inputs outputs : List Socket) : NodeSockets := ⟨inputs, outputs, .ok, []⟩

/-- Sockets with diagnostics. -/
def reporting (inputs outputs : List Socket) (diagnostics : List Diagnostic) : NodeSockets :=
  ⟨inputs, outputs, .ok, diagnostics⟩

/-- The input with an identifier. -/
def input? (sockets : NodeSockets) (id : String) : Option Socket :=
  sockets.inputs.find? fun socket => socket.id == id

/-- The output with an identifier. -/
def output? (sockets : NodeSockets) (id : String) : Option Socket :=
  sockets.outputs.find? fun socket => socket.id == id

/-- Some socket carries execution order. -/
def hasFlow (sockets : NodeSockets) : Bool :=
  (sockets.inputs ++ sockets.outputs).any fun socket => socket.type.isFlow

end NodeSockets

end LuauNodes
