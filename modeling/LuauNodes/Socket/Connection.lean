import LuauNodes.Socket.Basic

/-!
# Connections

Whether an edge between two nodes is allowed.  The output must exist, then the
input, and then their types must go together.  Where there is no handle there is
no socket.
-/

namespace LuauNodes

/-- The verdict on an edge, with the types of its ends as far as they are known. -/
structure ConnectionCheck where
  problem : Option Problem
  sourceType : Option LuauType
  targetType : Option LuauType
  deriving DecidableEq

/-- The edge is allowed. -/
def ConnectionCheck.allowed (check : ConnectionCheck) : Bool := check.problem.isNone

/-- Checks an edge between the sockets of two nodes, which are named in the problem. -/
def checkConnection
    (source : NodeSockets)
    (sourceHandle : Option String)
    (target : NodeSockets)
    (targetHandle : Option String)
    (sourceNode targetNode : String) :
    ConnectionCheck :=
  match sourceHandle.bind source.output? with
  | none => ⟨some (.unknownSourceSocket sourceNode sourceHandle), none, none⟩
  | some output =>
    match targetHandle.bind target.input? with
    | none => ⟨some (.unknownTargetSocket targetNode targetHandle), some output.type, none⟩
    | some input =>
      if output.type.connects input.type then ⟨none, some output.type, some input.type⟩
      else
        ⟨some (.typeMismatch output.type input.type), some output.type, some input.type⟩

end LuauNodes
