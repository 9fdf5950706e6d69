import LuauNodes.Node.Palette

/-!
# Types that are shown

An input of the wildcard type shows the type that feeds it.  That is all that the
feeding types do: the sockets of a node, its status and its diagnostics are
otherwise the same whatever feeds it, and as a connection is checked by the types
that sockets have and not by those that they show, so is every verdict.
-/

namespace LuauNodes

/-- The same surroundings while other types feed the inputs. -/
def SocketContext.fedBy (context : SocketContext) (feeds : Feeds) : SocketContext :=
  { context with feeds := feeds }

/-- A socket that shows its own type. -/
def Socket.unrefined (socket : Socket) : Socket := { socket with refined := none }

/-- The sockets of a node where every input shows its own type. -/
def NodeSockets.unrefined (sockets : NodeSockets) : NodeSockets :=
  { sockets with inputs := sockets.inputs.map Socket.unrefined }

/-! ## Sockets -/

/-- No shape looks at what feeds its inputs. -/
theorem Shape.sockets_fedBy
    (shape : Shape)
    (config : shape.Config)
    (context : SocketContext)
    (feeds : Feeds) :
    shape.sockets config (context.fedBy feeds) = shape.sockets config context := by
  cases shape <;> rfl

namespace NodeKind

theorem unrefined_refine (context : SocketContext) (socket : Socket) :
    (refine context socket).unrefined = socket.unrefined := by
  unfold refine
  split
  · rfl
  · split
    · rfl
    · split <;> rfl

theorem id_refine (context : SocketContext) (socket : Socket) :
    (refine context socket).id = socket.id := by
  have same := congrArg Socket.id (unrefined_refine context socket)
  exact same

theorem type_refine (context : SocketContext) (socket : Socket) :
    (refine context socket).type = socket.type := by
  have same := congrArg Socket.type (unrefined_refine context socket)
  exact same

theorem map_id_refine (context : SocketContext) (sockets : List Socket) :
    (sockets.map (refine context)).map Socket.id = sockets.map Socket.id := by
  rw [List.map_map]
  exact List.map_congr_left fun socket _ => id_refine context socket

theorem unrefined_resolve_fedBy
    (kind : NodeKind)
    (stored : Json)
    (context : SocketContext)
    (feeds : Feeds) :
    (kind.resolve stored (context.fedBy feeds)).unrefined =
      (kind.resolve stored context).unrefined := by
  have forgets : ∀ surroundings : SocketContext,
      Socket.unrefined ∘ refine surroundings = Socket.unrefined :=
    fun surroundings => funext (unrefined_refine surroundings)
  simp only [NodeSockets.unrefined, resolve, Shape.sockets_fedBy, List.map_map, forgets]

end NodeKind

theorem Palette.unrefined_sockets_fedBy
    (palette : Palette)
    (kindId : String)
    (stored : Json)
    (context : SocketContext)
    (feeds : Feeds) :
    (palette.sockets kindId stored (context.fedBy feeds)).unrefined =
      (palette.sockets kindId stored context).unrefined := by
  unfold Palette.sockets
  cases palette.get? kindId with
  | none => rfl
  | some kind => exact kind.unrefined_resolve_fedBy stored context feeds

/-! ## Connections -/

theorem NodeSockets.input?_unrefined (sockets : NodeSockets) (id : String) :
    sockets.unrefined.input? id = (sockets.input? id).map Socket.unrefined := by
  unfold input? unrefined
  rw [List.find?_map]
  rfl

/-- A verdict does not depend on the types that are shown. -/
theorem checkConnection_unrefined
    (source : NodeSockets)
    (sourceHandle : Option String)
    (target : NodeSockets)
    (targetHandle : Option String)
    (sourceNode targetNode : String) :
    checkConnection source.unrefined sourceHandle target.unrefined targetHandle sourceNode
        targetNode =
      checkConnection source sourceHandle target targetHandle sourceNode targetNode := by
  have input : targetHandle.bind target.unrefined.input? =
      (targetHandle.bind target.input?).map Socket.unrefined := by
    cases targetHandle with
    | none => rfl
    | some handle => exact target.input?_unrefined handle
  unfold checkConnection
  rw [input]
  cases targetHandle.bind target.input? with
  | none => rfl
  | some found => rfl

/-- What feeds the inputs of a node changes nothing but the types that its inputs show, and no
verdict on a connection depends on what feeds the nodes at its ends. -/
theorem Palette.feeds_display_only (palette : Palette) :
    (∀ kindId stored (context : SocketContext) first second,
      (palette.sockets kindId stored (context.fedBy first)).unrefined =
        (palette.sockets kindId stored (context.fedBy second)).unrefined) ∧
    ∀ sourceKind sourceStored sourceHandle (sourceContext : SocketContext)
      targetKind targetStored targetHandle (targetContext : SocketContext)
      sourceFirst sourceSecond targetFirst targetSecond,
      palette.checkConnection
          sourceKind sourceStored sourceHandle (sourceContext.fedBy sourceFirst)
          targetKind targetStored targetHandle (targetContext.fedBy targetFirst) =
        palette.checkConnection
          sourceKind sourceStored sourceHandle (sourceContext.fedBy sourceSecond)
          targetKind targetStored targetHandle (targetContext.fedBy targetSecond) := by
  have alike : ∀ kindId stored (context : SocketContext) first second,
      (palette.sockets kindId stored (context.fedBy first)).unrefined =
        (palette.sockets kindId stored (context.fedBy second)).unrefined := by
    intro kindId stored context first second
    rw [palette.unrefined_sockets_fedBy, palette.unrefined_sockets_fedBy]
  refine ⟨alike, ?_⟩
  intro sourceKind sourceStored sourceHandle sourceContext targetKind targetStored targetHandle
    targetContext sourceFirst sourceSecond targetFirst targetSecond
  rw [Palette.checkConnection, Palette.checkConnection, ← checkConnection_unrefined,
    alike sourceKind sourceStored sourceContext sourceFirst sourceSecond,
    alike targetKind targetStored targetContext targetFirst targetSecond,
    checkConnection_unrefined]

/-- A number that feeds a print is shown there, and the input still takes anything. -/
example :
    ((Palette.standard.sockets "Print" (.object [])
      (SocketContext.empty.fedBy (.ofList [("value", .number)]))).inputs.map fun socket =>
        (socket.type, socket.refined)) = [(.flow, none), (.any, some .number)] := by
  decide +kernel

end LuauNodes
