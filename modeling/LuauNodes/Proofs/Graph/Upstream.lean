import LuauNodes.Graph.Membership
import LuauNodes.Graph.Wiring
import LuauNodes.Proofs.Node.Display
import LuauNodes.Proofs.Registry.Meaning
import Mathlib.Data.Option.Basic

/-!
# What feeds a node

The types that feed a node come from the outputs of other nodes, and what an
output offers depends on little: on what the functions mean, and for a node that
reads a variable on what that variable means.  So where two registries agree on
these, the same types arrive.
-/

namespace LuauNodes

/-! ## Nodes that read and set variables -/

namespace Shape

/-- The name of the variable that a node reads. -/
def readName? : (shape : Shape) → shape.Config → Option String
  | variableGet, config => some config.name
  | _, _ => none

/-- The name of the variable that a node sets, if a variable may have the name. -/
def setName? : (shape : Shape) → shape.Config → Option String
  | variableSet, config => if isDeclarableName config.name then some config.name else none
  | _, _ => none

end Shape

namespace Palette

/-- The name of the variable that a node reads. -/
def readName? (palette : Palette) (node : GraphNode) : Option String :=
  (palette.get? node.kind).bind fun kind => kind.shape.readName? (kind.configOf node.stored)

/-- The name of the variable that a node sets, if a variable may have the name. -/
def setName? (palette : Palette) (node : GraphNode) : Option String :=
  (palette.get? node.kind).bind fun kind => kind.shape.setName? (kind.configOf node.stored)

end Palette

/-! ## Sockets that edges cannot tell apart -/

/-- The outputs are the same, and the inputs have the same identifiers. -/
structure NodeSockets.WiredAlike (left right : NodeSockets) : Prop where
  outputs : left.outputs = right.outputs
  inputs : left.inputs.map Socket.id = right.inputs.map Socket.id

theorem NodeSockets.WiredAlike.refl (sockets : NodeSockets) : sockets.WiredAlike sockets :=
  ⟨rfl, rfl⟩

theorem wiredAlike_reporting (inputs outputs : List Socket) (left right : List Diagnostic) :
    (NodeSockets.reporting inputs outputs left).WiredAlike (.reporting inputs outputs right) :=
  ⟨rfl, rfl⟩

variable {left right : SocketContext}

theorem wiredAlike_functionCall
    (config : CallConfig)
    (functions : ∀ name, left.functionNamed? name = right.functionNamed? name) :
    (functionCallSockets config left).WiredAlike (functionCallSockets config right) := by
  unfold functionCallSockets
  dsimp only
  rw [functions]
  exact .refl _

theorem wiredAlike_variableGet
    (config : VariableConfig)
    (vars : left.variableNamed? config.name = right.variableNamed? config.name) :
    (variableGetSockets config left).WiredAlike (variableGetSockets config right) := by
  unfold variableGetSockets
  dsimp only
  rw [vars]
  exact wiredAlike_reporting _ _ _ _

/-- What edges see of a node depends on the functions and on the variable that the node reads. -/
theorem Shape.wiredAlike_sockets
    (shape : Shape)
    (config : shape.Config)
    (functions : ∀ name, left.functionNamed? name = right.functionNamed? name)
    (vars : ∀ name, shape.readName? config = some name →
      left.variableNamed? name = right.variableNamed? name) :
    (shape.sockets config left).WiredAlike (shape.sockets config right) := by
  cases shape with
  | functionCall => exact wiredAlike_functionCall config functions
  | variableGet => exact wiredAlike_variableGet config (vars _ rfl)
  | operator operand result operands =>
      simp only [sockets, operatorSockets]
      split <;> exact ⟨rfl, rfl⟩
  | whileLoop | repeatUntil | returnValue =>
      simp only [sockets, statementSockets]
      split <;> exact ⟨rfl, rfl⟩
  | forLoop =>
      simp only [sockets, forLoopSockets]
      split <;> exact ⟨rfl, rfl⟩
  | _ => exact ⟨rfl, rfl⟩

theorem Palette.wiredAlike_sockets
    (palette : Palette)
    (node : GraphNode)
    (functions : ∀ name, left.functionNamed? name = right.functionNamed? name)
    (vars : ∀ name, palette.readName? node = some name →
      left.variableNamed? name = right.variableNamed? name) :
    (palette.sockets node.kind node.stored left).WiredAlike
      (palette.sockets node.kind node.stored right) := by
  unfold Palette.sockets
  cases found : palette.get? node.kind with
  | none => exact .refl _
  | some kind =>
      have alike := kind.shape.wiredAlike_sockets (kind.configOf node.stored) functions
        fun name reads => vars name (by rw [Palette.readName?, found]; exact reads)
      refine ⟨alike.outputs, ?_⟩
      dsimp only [NodeKind.resolve]
      rw [NodeKind.map_id_refine, NodeKind.map_id_refine, alike.inputs]

/-! ## Feeds -/

namespace Graph

variable {leftNodes rightNodes : ResolvedNodes} {edge : GraphEdge}

/-- Which socket an edge attaches to is a matter of the identifiers. -/
theorem handleAmong_eq (handle : Option String) (sockets : List Socket) :
    handleAmong handle sockets =
      match handle, sockets.map Socket.id with
      | none, [only] => some only
      | _, _ => handle := by
  cases handle with
  | some own => rfl
  | none => rcases sockets with _ | ⟨first, _ | ⟨second, rest⟩⟩ <;> rfl

theorem sourceType?_congr
    (alike : Option.Rel NodeSockets.WiredAlike (leftNodes.get? edge.source)
      (rightNodes.get? edge.source)) :
    sourceType? leftNodes edge = sourceType? rightNodes edge := by
  unfold sourceType?
  generalize leftNodes.get? edge.source = first at alike ⊢
  generalize rightNodes.get? edge.source = second at alike ⊢
  cases alike with
  | none => rfl
  | some alike =>
      unfold NodeSockets.output?
      rw [Option.bind_some, Option.bind_some, alike.outputs]

theorem targetHandle?_congr
    (alike : Option.Rel NodeSockets.WiredAlike (leftNodes.get? edge.target)
      (rightNodes.get? edge.target)) :
    targetHandle? leftNodes edge = targetHandle? rightNodes edge := by
  unfold targetHandle?
  generalize leftNodes.get? edge.target = first at alike ⊢
  generalize rightNodes.get? edge.target = second at alike ⊢
  cases alike with
  | none => rfl
  | some alike =>
      rw [Option.bind_some, Option.bind_some, handleAmong_eq, alike.inputs, ← handleAmong_eq]

/-- What feeds an input of a node, if anything does. -/
def feedOf? (feeds : GraphFeeds) (id handle : String) : Option LuauType :=
  (feeds.getD id ∅).get? handle

/-- An edge changes what feeds the input at which it ends, and nothing else. -/
theorem feedOf?_feed (resolved : ResolvedNodes) (feeds : GraphFeeds) (edge : GraphEdge)
    (id handle : String) :
    feedOf? (feed resolved feeds edge) id handle =
      if edge.target = id ∧ targetHandle? resolved edge = some handle then
        (sourceType? resolved edge).or (feedOf? feeds id handle)
      else feedOf? feeds id handle := by
  unfold feed
  cases sourceType? resolved edge with
  | none => simp
  | some type =>
      cases targetHandle? resolved edge with
      | none => simp
      | some own =>
          dsimp only
          rw [feedOf?, OrderedMap.getD, OrderedMap.get?_insert]
          by_cases here : edge.target = id
          · subst here
            rw [if_pos rfl, Option.getD_some, OrderedMap.get?_insert]
            by_cases same : own = handle
            · simp [same]
            · simp [same, feedOf?]
          · simp [here, feedOf?, OrderedMap.getD]

/-- The same feeds an input, if the edges into the input end and begin alike. -/
theorem feedOf?_feeds_congr
    (graph : Graph)
    {id handle : String}
    (target : ∀ edge ∈ graph.edges, edge.target = id →
      targetHandle? leftNodes edge = targetHandle? rightNodes edge)
    (source : ∀ edge ∈ graph.edges, edge.target = id →
      targetHandle? rightNodes edge = some handle →
      sourceType? leftNodes edge = sourceType? rightNodes edge) :
    feedOf? (graph.feeds leftNodes) id handle = feedOf? (graph.feeds rightNodes) id handle := by
  have along : ∀ (edges : List GraphEdge) (leftFeeds rightFeeds : GraphFeeds),
      (∀ edge ∈ edges, edge ∈ graph.edges) →
      feedOf? leftFeeds id handle = feedOf? rightFeeds id handle →
      feedOf? (edges.foldl (feed leftNodes) leftFeeds) id handle =
        feedOf? (edges.foldl (feed rightNodes) rightFeeds) id handle := by
    intro edges
    induction edges with
    | nil => exact fun _ _ _ same => same
    | cons edge rest ih =>
        intro leftFeeds rightFeeds among same
        have here := among edge List.mem_cons_self
        refine ih _ _ (fun other later => among other (List.mem_cons_of_mem edge later)) ?_
        rw [feedOf?_feed, feedOf?_feed]
        by_cases ends : edge.target = id
        · rw [target edge here ends]
          split
          · rename_i into
            rw [source edge here ends into.2, same]
          · exact same
        · rw [if_neg fun both => ends both.1, if_neg fun both => ends both.1, same]
  exact along graph.edges ∅ ∅ (fun _ among => among) rfl

/-! ## Nodes in a registry -/

/-- Every node of a graph has the sockets that it has in its surroundings in a registry, while some
types feed its inputs. -/
structure ResolvedIn
    (graph : Graph)
    (palette : Palette)
    (document : String)
    (members : Membership)
    (registry : Registry)
    (feeds : GraphFeeds)
    (resolved : ResolvedNodes) :
    Prop where
  nodes : ∀ node ∈ graph.nodes, ∃ context,
    SocketContext.ofRegistry registry document (members.scopeOf node.id)
      (feeds.getD node.id ∅) = .ok context ∧
    resolved.get? node.id = some (palette.sockets node.kind node.stored context)
  others : ∀ id, (∀ node ∈ graph.nodes, node.id ≠ id) → resolved.get? id = none

variable {graph : Graph} {palette : Palette} {document : String} {members : Membership}
variable {left right : Registry} {leftFeeds rightFeeds : GraphFeeds}

theorem ResolvedIn.alike_elsewhere
    (first : graph.ResolvedIn palette document members left leftFeeds leftNodes)
    (second : graph.ResolvedIn palette document members right rightFeeds rightNodes)
    {id : String}
    (elsewhere : ∀ node ∈ graph.nodes, node.id ≠ id) :
    Option.Rel NodeSockets.WiredAlike (leftNodes.get? id) (rightNodes.get? id) := by
  rw [first.others id elsewhere, second.others id elsewhere]
  exact .none

/-- Every scope that some node sits in is stored. -/
def Seated (graph : Graph) (document : String) (members : Membership) (registry : Registry) :
    Prop :=
  ∀ node ∈ graph.nodes, ∀ id, members.scopeOf node.id = some id →
    registry.scopes.has document (some id) = true

/-- Two registries in which all functions mean the same. -/
structure Comparable
    (graph : Graph)
    (document : String)
    (members : Membership)
    (left right : Registry) :
    Prop where
  leftConsistent : left.ConsistentAt document []
  rightConsistent : right.ConsistentAt document []
  seated : graph.Seated document members left
  functions : ∀ name, Registry.AgreesOnName .functions document name left right

/-- Edges cannot tell two registries apart at a node, if the node reads no variable or one on which
they agree. -/
theorem Comparable.alike
    (comparable : graph.Comparable document members left right)
    (first : graph.ResolvedIn palette document members left leftFeeds leftNodes)
    (second : graph.ResolvedIn palette document members right rightFeeds rightNodes)
    {node : GraphNode}
    (member : node ∈ graph.nodes)
    (vars : ∀ name, palette.readName? node = some name →
      Registry.AgreesOnName .vars document name left right) :
    Option.Rel NodeSockets.WiredAlike (leftNodes.get? node.id) (rightNodes.get? node.id) := by
  obtain ⟨context, found, sockets⟩ := first.nodes node member
  obtain ⟨twin, twinFound, twinSockets⟩ := second.nodes node member
  have surrounds := (Registry.surrounds_of_ofRegistry found).2
  have twinSurrounds := (Registry.surrounds_of_ofRegistry twinFound).2
  have same : ∀ {space name}, Registry.AgreesOnName space document name left right →
      left.resolve space document name (members.scopeOf node.id) =
        right.resolve space document name (members.scopeOf node.id) := fun agree =>
    agree.resolve comparable.leftConsistent comparable.rightConsistent
      (comparable.seated node member)
  rw [sockets, twinSockets]
  refine .some (palette.wiredAlike_sockets node (fun name => ?_) fun name reads => ?_)
  · have resolved := same (comparable.functions name)
    rw [surrounds.functions, twinSurrounds.functions] at resolved
    exact Except.ok.inj resolved
  · have resolved := same (vars name reads)
    rw [surrounds.vars, twinSurrounds.vars] at resolved
    exact Except.ok.inj resolved

/-- The same feeds an input of a node, if the edges into the input come from nodes that read no
variable or one on which the registries agree. -/
theorem Comparable.feedOf?_eq
    (comparable : graph.Comparable document members left right)
    (first : graph.ResolvedIn palette document members left leftFeeds leftNodes)
    (second : graph.ResolvedIn palette document members right rightFeeds rightNodes)
    {node : GraphNode}
    (member : node ∈ graph.nodes)
    (own : palette.readName? node = none)
    {handle : String}
    (upstream : ∀ edge ∈ graph.edges, edge.target = node.id →
      targetHandle? rightNodes edge = some handle →
      ∀ source ∈ graph.nodes, source.id = edge.source →
      ∀ name, palette.readName? source = some name →
        Registry.AgreesOnName .vars document name left right) :
    feedOf? (graph.feeds leftNodes) node.id handle =
      feedOf? (graph.feeds rightNodes) node.id handle := by
  refine feedOf?_feeds_congr graph (fun edge _ ends => ?_) fun edge among ends into => ?_
  · rw [targetHandle?_congr]
    rw [ends]
    refine comparable.alike first second member fun name reads => ?_
    rw [own] at reads
    cases reads
  · refine sourceType?_congr ?_
    by_cases known : ∃ source ∈ graph.nodes, source.id = edge.source
    · obtain ⟨source, sourceMember, begins⟩ := known
      rw [← begins]
      exact comparable.alike first second sourceMember
        (upstream edge among ends into source sourceMember begins)
    · refine first.alike_elsewhere second fun source sourceMember begins => ?_
      exact known ⟨source, sourceMember, begins⟩

/-- In one registry the same types arrive, whatever fed the inputs when sockets were resolved. -/
theorem ResolvedIn.feeds_eq
    {registry : Registry}
    (consistent : registry.ConsistentAt document [])
    (seated : graph.Seated document members registry)
    (first : graph.ResolvedIn palette document members registry leftFeeds leftNodes)
    (second : graph.ResolvedIn palette document members registry rightFeeds rightNodes) :
    graph.feeds leftNodes = graph.feeds rightNodes := by
  have comparable : graph.Comparable document members registry registry :=
    ⟨consistent, consistent, seated, fun name => .refl .functions document name registry⟩
  have alike : ∀ id,
      Option.Rel NodeSockets.WiredAlike (leftNodes.get? id) (rightNodes.get? id) := by
    intro id
    by_cases known : ∃ node ∈ graph.nodes, node.id = id
    · obtain ⟨node, member, rfl⟩ := known
      exact comparable.alike first second member fun name _ => .refl .vars document name registry
    · exact first.alike_elsewhere second fun node member same => known ⟨node, member, same⟩
  have same : feed leftNodes = feed rightNodes := by
    funext feeds edge
    unfold feed
    rw [sourceType?_congr (alike _), targetHandle?_congr (alike _)]
  rw [Graph.feeds, Graph.feeds, same]

end Graph

end LuauNodes
