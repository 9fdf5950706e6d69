import LuauNodes.Proofs.Graph.Typing
import LuauNodes.Proofs.Node.Display
import Mathlib.Data.List.Induction

/-!
# The types that a report shows

An analysis computes what feeds the inputs from an earlier pass than the one that
it reports.  The report nevertheless agrees with itself: an input of the wildcard
type shows the type that comes in, last of all edges, from the outputs of the same
report.  So one more pass, fed by what is reported, finds the same sockets again.
-/

namespace LuauNodes

/-- The socket that an edge attaches to by its handle; without a handle, the only one. -/
def socketAt? : Option String → List Socket → Option Socket
  | some handle, sockets => sockets.find? fun socket => socket.id == handle
  | none, [only] => some only
  | none, _ => none

namespace GraphReport

/-- The type that comes along an edge: that of the output where it begins, else the one that was
noted on it. -/
def typeAlong? (report : GraphReport) (edge : GraphEdge) : Option LuauType :=
  match (report.node? edge.source).bind fun source =>
      socketAt? edge.sourceHandle source.sockets.outputs with
  | some output => some output.type
  | none => edge.notedType?

/-- An edge ends at an input of a node. -/
def endsAt (node : NodeReport) (input : Socket) (edge : GraphEdge) : Bool :=
  edge.target == node.nodeId &&
    (socketAt? edge.targetHandle node.sockets.inputs).map Socket.id == some input.id

/-- The types that are known to come into an input, in the order of the edges. -/
def typesInto
    (report : GraphReport)
    (graph : Graph)
    (node : NodeReport)
    (input : Socket) :
    List LuauType :=
  (graph.edges.filter (endsAt node input)).filterMap report.typeAlong?

/-- The sockets of all nodes of a report. -/
def resolved (report : GraphReport) : ResolvedNodes :=
  .ofList (report.nodes.map fun node => (node.nodeId, node.sockets))

/-- A report of all nodes of a graph where the inputs of the wildcard type, and no others, show the
last type that comes into them, if that is a type of data other than the wildcard. -/
structure ShowsTypes (report : GraphReport) (graph : Graph) : Prop where
  nodes : report.nodes.map NodeReport.nodeId = graph.nodes.map GraphNode.id
  inputs : ∀ node ∈ report.nodes, ∀ input ∈ node.sockets.inputs, ∀ type,
    input.refined = some type ↔
      input.type = .any ∧ (report.typesInto graph node input).getLast? = some type ∧
        type ≠ .any ∧ type ≠ .flow

end GraphReport

/-! ## Sockets of nodes -/

/-- A socket as a shape makes it: it has an identifier, and it shows its own type. -/
structure Socket.Fresh (socket : Socket) : Prop where
  named : socket.id ≠ ""
  unrefined : socket.refined = none

namespace Socket

@[simp]
theorem fresh_labelled_iff {id label : String} {type : LuauType} :
    (labelled id label type).Fresh ↔ id ≠ "" :=
  ⟨Fresh.named, fun named => ⟨named, rfl⟩⟩

@[simp]
theorem fresh_plain_iff {id : String} {type : LuauType} :
    (plain id type).Fresh ↔ id ≠ "" :=
  ⟨Fresh.named, fun named => ⟨named, rfl⟩⟩

theorem fresh_of_mem_operandSockets
    {type : LuauType}
    {operands : Nat}
    {socket : Socket}
    (among : socket ∈ operandSockets type operands) :
    socket.Fresh := by
  have both : ∀ socket ∈ [labelled "a" "A" type, labelled "b" "B" type], socket.Fresh := by simp
  exact both socket (List.mem_of_mem_take among)

theorem fresh_of_mem_ifElseInputs {config : IfElseConfig} :
    ∀ socket ∈ ifElseInputs config, socket.Fresh := by
  simp only [ifElseInputs, List.forall_mem_cons, List.forall_mem_append, List.forall_mem_map]
  cases config.mainCondition.mode <;> simp

theorem fresh_of_mem_ifElseOutputs {config : IfElseConfig} :
    ∀ socket ∈ ifElseOutputs config, socket.Fresh := by
  simp only [ifElseOutputs, List.forall_mem_cons, List.forall_mem_append, List.forall_mem_map]
  cases config.showElse <;> simp

theorem fresh_of_mem_parameterSockets {parameters : List Parameter} :
    ∀ socket ∈ parameterSockets parameters, socket.Fresh := by
  simp only [parameterSockets, List.forall_mem_map]
  simp

theorem fresh_of_mem_packSockets {count : Nat} : ∀ socket ∈ packSockets count, socket.Fresh := by
  simp [packSockets]

end Socket

/-- All sockets of a node are as a shape makes them. -/
structure NodeSockets.Fresh (sockets : NodeSockets) : Prop where
  inputs : ∀ input ∈ sockets.inputs, input.Fresh
  outputs : ∀ output ∈ sockets.outputs, output.Fresh

theorem Shape.fresh_sockets (shape : Shape) (config : shape.Config) (context : SocketContext) :
    (shape.sockets config context).Fresh := by
  cases shape with
  | operator operand result operands =>
      simp only [sockets, operatorSockets]
      split
      · exact ⟨fun _ => Socket.fresh_of_mem_operandSockets, by simp [NodeSockets.sound]⟩
      · constructor <;> simp [NodeSockets.reporting]
  | ifElse => exact ⟨Socket.fresh_of_mem_ifElseInputs, Socket.fresh_of_mem_ifElseOutputs⟩
  | whileLoop | repeatUntil | returnValue =>
      simp only [sockets, statementSockets]
      split <;> constructor <;> simp [NodeSockets.sound, NodeSockets.reporting, nextFlow]
  | forLoop =>
      simp only [sockets, forLoopSockets]
      split <;> constructor <;> simp [NodeSockets.reporting]
  | functionCall =>
      simp only [sockets, functionCallSockets]
      split
      · constructor
        · simpa [NodeSockets.sound] using Socket.fresh_of_mem_parameterSockets
        · simp [NodeSockets.sound]
      · split <;> constructor <;> simp [NodeSockets.sound]
  | tablePack =>
      constructor
      · simpa [sockets, NodeSockets.sound] using Socket.fresh_of_mem_packSockets
      · simp [sockets, NodeSockets.sound, nextFlow]
  | string | number | boolean | variableGet | variableSet | functionDefinition =>
      constructor <;>
        simp [sockets, valueSockets, variableGetSockets, variableSetSockets,
          functionDefinitionSockets, NodeSockets.reporting]
  | tableConcat | tableForeach | tableCreate | tableFind | tableInsert | tableMove | tableRemove
    | tableSort | tableUnpack =>
      simp only [sockets]
      split <;> constructor <;> simp [NodeSockets.sound, tableStatement, nextFlow]
  | _ => constructor <;> simp [sockets, NodeSockets.sound, tableStatement, nextFlow]

namespace NodeKind

variable (context : SocketContext)

/-- A fresh socket shows another type exactly if it is a wildcard that data of that type feeds. -/
theorem refined_refine_iff {socket : Socket} (fresh : socket.Fresh) (type : LuauType) :
    (refine context socket).refined = some type ↔
      socket.type = .any ∧ context.feed? socket.id = some type ∧ type ≠ .any ∧ type ≠ .flow := by
  unfold refine
  split
  · rename_i concrete
    simp_all [fresh.unrefined]
  · rename_i wild
    have wild : socket.type = .any := by simpa using wild
    cases context.feed? socket.id with
    | none => simp [fresh.unrefined]
    | some fed =>
        dsimp only
        split
        · rename_i vague
          have vague : fed = .any ∨ fed = .flow := by simpa using vague
          rw [fresh.unrefined]
          constructor
          · intro shown
            cases shown
          · rintro ⟨-, same, notAny, notFlow⟩
            cases same
            exact (vague.elim notAny notFlow).elim
        · rename_i clear
          have clear : fed ≠ .any ∧ fed ≠ .flow := by simpa using clear
          constructor
          · intro shown
            cases shown
            exact ⟨wild, rfl, clear⟩
          · rintro ⟨-, same, -⟩
            exact same

end NodeKind

namespace Palette

variable (palette : Palette) (kindId : String) (stored : Json) (context : SocketContext)

theorem refined_iff_of_mem_inputs
    {input : Socket}
    (among : input ∈ (palette.sockets kindId stored context).inputs)
    (type : LuauType) :
    input.refined = some type ↔
      input.type = .any ∧ context.feed? input.id = some type ∧ type ≠ .any ∧ type ≠ .flow := by
  unfold sockets at among
  cases available : palette.get? kindId with
  | none =>
      rw [available] at among
      cases among
  | some kind =>
      rw [available] at among
      obtain ⟨socket, member, rfl⟩ := List.mem_map.mp among
      rw [NodeKind.id_refine, NodeKind.type_refine]
      exact NodeKind.refined_refine_iff context
        ((kind.shape.fresh_sockets _ context).inputs socket member) type

/-- Every socket of a node has an identifier. -/
theorem named_sockets :
    (∀ input ∈ (palette.sockets kindId stored context).inputs, input.id ≠ "") ∧
      ∀ output ∈ (palette.sockets kindId stored context).outputs, output.id ≠ "" := by
  unfold sockets
  cases palette.get? kindId with
  | none => exact ⟨fun _ among => (List.not_mem_nil among).elim,
      fun _ among => (List.not_mem_nil among).elim⟩
  | some kind =>
      have fresh := kind.shape.fresh_sockets (kind.configOf stored) context
      refine ⟨fun input among => ?_, fun output among => (fresh.outputs output among).named⟩
      obtain ⟨socket, member, rfl⟩ := List.mem_map.mp among
      rw [NodeKind.id_refine]
      exact (fresh.inputs socket member).named

end Palette

/-! ## Ends of edges -/

section Ends

variable {sockets : List Socket} (named : ∀ socket ∈ sockets, socket.id ≠ "")

include named

theorem find?_handleAmong (handle : Option String) :
    (sockets.find? fun socket => socket.id == (handleAmong handle sockets).getD "") =
      socketAt? handle sockets := by
  have unnamed : (sockets.find? fun socket => socket.id == "") = none := by
    refine List.find?_eq_none.mpr fun socket among => ?_
    simpa using named socket among
  cases handle with
  | some handle => rfl
  | none =>
      rcases sockets with _ | ⟨first, _ | ⟨second, rest⟩⟩
      · rfl
      · simp [handleAmong, socketAt?]
      · exact unnamed

theorem filter_handleAmong_eq_some_iff
    (handle : Option String)
    {socket : Socket}
    (among : socket ∈ sockets) :
    (handleAmong handle sockets).filter (fun handle => !handle.isEmpty) = some socket.id ↔
      (socketAt? handle sockets).map Socket.id = some socket.id := by
  have own : socket.id.isEmpty = false := by
    simpa using named socket among
  cases handle with
  | some handle =>
      have found : (sockets.find? fun other => other.id == handle).map Socket.id =
          some socket.id ↔ handle = socket.id := by
        constructor
        · intro found
          obtain ⟨other, isFound, same⟩ := Option.map_eq_some_iff.mp found
          have named := List.find?_some isFound
          rw [← same]
          exact (beq_iff_eq.mp named).symm
        · rintro rfl
          cases isFound : sockets.find? fun other => other.id == socket.id with
          | none =>
              have missing := List.find?_eq_none.mp isFound socket among
              simp at missing
          | some other =>
              have same := List.find?_some isFound
              simpa using same
      rw [socketAt?, found]
      simp only [handleAmong, Option.filter_eq_some_iff, Option.some.injEq]
      refine ⟨fun both => both.1, fun same => ⟨same, ?_⟩⟩
      simp [own]
  | none =>
      rcases sockets with _ | ⟨first, _ | ⟨second, rest⟩⟩
      · cases among
      · cases List.mem_singleton.mp among
        simp [handleAmong, socketAt?, own]
      · simp [handleAmong, socketAt?]

end Ends

namespace Graph

variable {graph : Graph}

/-- What feeds an input is the last type that is known to come into it. -/
theorem feedOf?_feeds (graph : Graph) (resolved : ResolvedNodes) (id handle : String) :
    feedOf? (graph.feeds resolved) id handle =
      ((graph.edges.filter fun edge =>
        edge.target == id && targetHandle? resolved edge == some handle).filterMap
          (sourceType? resolved)).getLast? := by
  unfold feeds
  -- The last edge is counted last.
  induction graph.edges using List.reverseRecOn with
  | nil => rfl
  | append_singleton edges edge ih =>
      rw [List.foldl_append, List.foldl_cons, List.foldl_nil, feedOf?_feed, ih,
        List.filter_append, List.filterMap_append, List.getLast?_append]
      by_cases into : edge.target = id ∧ targetHandle? resolved edge = some handle
      · rw [if_pos into]
        have kept : (edge.target == id && targetHandle? resolved edge == some handle) = true := by
          simpa using into
        rw [List.filter_singleton, kept]
        cases known : sourceType? resolved edge <;> simp [known]
      · rw [if_neg into]
        have dropped : (edge.target == id && targetHandle? resolved edge == some handle) =
            false := by
          simpa using into
        rw [List.filter_singleton, dropped]
        rfl

theorem feeds_congr
    (graph : Graph)
    {left right : ResolvedNodes}
    (same : ∀ id, left.get? id = right.get? id) :
    graph.feeds left = graph.feeds right := by
  have step : feed left = feed right := by
    funext feeds edge
    simp only [feed, sourceType?, targetHandle?, same]
  rw [feeds, feeds, step]

/-- The sockets of nodes are determined by what feeds them. -/
theorem ResolvedIn.get?_eq
    {palette : Palette}
    {document : String}
    {members : Membership}
    {registry : Registry}
    {feeds : GraphFeeds}
    {left right : ResolvedNodes}
    (first : graph.ResolvedIn palette document members registry feeds left)
    (second : graph.ResolvedIn palette document members registry feeds right)
    (id : String) :
    left.get? id = right.get? id := by
  by_cases known : ∃ node ∈ graph.nodes, node.id = id
  · obtain ⟨node, member, rfl⟩ := known
    obtain ⟨context, found, sockets⟩ := first.nodes node member
    obtain ⟨twin, twinFound, twinSockets⟩ := second.nodes node member
    cases found.symm.trans twinFound
    exact sockets.trans twinSockets.symm
  · have elsewhere : ∀ node ∈ graph.nodes, node.id ≠ id :=
      fun node member same => known ⟨node, member, same⟩
    rw [first.others id elsewhere, second.others id elsewhere]

end Graph

/-! ## Reports -/

namespace GraphReport

variable {report : GraphReport} {resolved : ResolvedNodes}

theorem node?_eq_some_iff
    (distinct : (report.nodes.map NodeReport.nodeId).Nodup)
    {id : String}
    {node : NodeReport} :
    report.node? id = some node ↔ node ∈ report.nodes ∧ node.nodeId = id := by
  constructor
  · intro found
    have same := List.find?_some found
    exact ⟨List.mem_of_find?_eq_some found, beq_iff_eq.mp same⟩
  · rintro ⟨member, rfl⟩
    cases found : report.node? node.nodeId with
    | none =>
        have missing := List.find?_eq_none.mp found node member
        simp at missing
    | some other =>
        have same := List.find?_some found
        have among := List.mem_of_find?_eq_some found
        rw [List.inj_on_of_nodup_map distinct among member (beq_iff_eq.mp same)]

theorem get?_resolved
    (distinct : (report.nodes.map NodeReport.nodeId).Nodup)
    (id : String) :
    report.resolved.get? id = (report.node? id).map NodeReport.sockets := by
  have keys : ((report.nodes.map fun node => (node.nodeId, node.sockets)).map (·.1)).Nodup := by
    rwa [List.map_map]
  refine Option.ext fun sockets => ?_
  rw [resolved, OrderedMap.get?_ofList_eq_some_iff keys, Option.map_eq_some_iff, List.mem_map]
  simp only [node?_eq_some_iff distinct, Prod.mk.injEq]
  constructor
  · rintro ⟨node, member, same, own⟩
    exact ⟨node, ⟨member, same⟩, own⟩
  · rintro ⟨node, ⟨member, same⟩, own⟩
    exact ⟨node, member, same, own⟩

/-- A report with the sockets that the nodes of a graph have, each with an identifier. -/
structure Reports (report : GraphReport) (graph : Graph) (resolved : ResolvedNodes) : Prop where
  ids : report.nodes.map NodeReport.nodeId = graph.nodes.map GraphNode.id
  distinct : (graph.nodes.map GraphNode.id).Nodup
  sockets : ∀ id, resolved.get? id = (report.node? id).map NodeReport.sockets
  named : ∀ node ∈ report.nodes, (∀ input ∈ node.sockets.inputs, input.id ≠ "") ∧
    ∀ output ∈ node.sockets.outputs, output.id ≠ ""

namespace Reports

variable {graph : Graph} (reports : report.Reports graph resolved)

include reports

theorem node?_eq_some_iff {id : String} {node : NodeReport} :
    report.node? id = some node ↔ node ∈ report.nodes ∧ node.nodeId = id :=
  GraphReport.node?_eq_some_iff (reports.ids ▸ reports.distinct)

theorem feeds_resolved : graph.feeds report.resolved = graph.feeds resolved := by
  refine graph.feeds_congr fun id => ?_
  rw [get?_resolved (reports.ids ▸ reports.distinct), reports.sockets]

theorem sourceType?_eq (edge : GraphEdge) :
    Graph.sourceType? resolved edge = report.typeAlong? edge := by
  unfold Graph.sourceType? typeAlong?
  rw [reports.sockets]
  cases found : report.node? edge.source with
  | none => rfl
  | some source =>
      have member := (reports.node?_eq_some_iff.mp found).1
      have same := find?_handleAmong (reports.named source member).2 edge.sourceHandle
      exact congrArg
        (fun socket : Option Socket =>
          match socket with
          | some output => some output.type
          | none => edge.notedType?)
        same

theorem endsAt_eq
    {node : NodeReport}
    (member : node ∈ report.nodes)
    {input : Socket}
    (among : input ∈ node.sockets.inputs)
    (edge : GraphEdge) :
    (edge.target == node.nodeId && Graph.targetHandle? resolved edge == some input.id) =
      endsAt node input edge := by
  unfold endsAt
  by_cases here : edge.target = node.nodeId
  · have found := reports.node?_eq_some_iff.mpr ⟨member, here.symm⟩
    rw [Graph.targetHandle?, reports.sockets, found, Option.map_some, Option.bind_some,
      Bool.eq_iff_iff]
    simp only [Bool.and_eq_true, beq_iff_eq]
    rw [filter_handleAmong_eq_some_iff (reports.named node member).1 _ among]
  · have elsewhere : (edge.target == node.nodeId) = false := by simpa using here
    rw [elsewhere, Bool.false_and, Bool.false_and]

/-- What feeds an input is the last type that comes into it. -/
theorem feedOf?_eq
    {node : NodeReport}
    (member : node ∈ report.nodes)
    {input : Socket}
    (among : input ∈ node.sockets.inputs) :
    Graph.feedOf? (graph.feeds resolved) node.nodeId input.id =
      (report.typesInto graph node input).getLast? := by
  rw [Graph.feedOf?_feeds, typesInto, funext (reports.endsAt_eq member among),
    funext reports.sourceType?_eq]

end Reports

end GraphReport

namespace AnalysisSeat

open Act

variable {η : Type} {seat : AnalysisSeat η} {Calm : η → Prop} {before : Workspace η}
variable {graph : Graph} {document : String} {palette : Palette} {report : GraphReport}

namespace Concluded

theorem exists_of_mem_nodes
    (concluded : seat.Concluded Calm graph document palette report before)
    {node : NodeReport}
    (member : node ∈ report.nodes) :
    ∃ context, context.feeds =
        (graph.feeds (seat.read before.rest).sockets).getD node.nodeId ∅ ∧
      ∃ saved ∈ graph.nodes, saved.id = node.nodeId ∧
        (seat.read before.rest).sockets.get? saved.id = some node.sockets ∧
          node.sockets = palette.sockets saved.kind saved.stored context := by
  rw [concluded.nodes] at member
  obtain ⟨saved, savedMember, rfl⟩ := List.mem_map.mp member
  obtain ⟨context, found, sockets⟩ := concluded.typed.sockets.nodes saved savedMember
  have own : (seat.read before.rest).sockets.getD saved.id (.sound [] []) =
      palette.sockets saved.kind saved.stored context := by
    rw [OrderedMap.getD, sockets, Option.getD_some]
  exact ⟨context, (Registry.surrounds_of_ofRegistry found).1, saved, savedMember, rfl,
    own ▸ sockets, own⟩

theorem reports
    (concluded : seat.Concluded Calm graph document palette report before)
    (distinct : (graph.nodes.map GraphNode.id).Nodup) :
    report.Reports graph (seat.read before.rest).sockets := by
  have ids : report.nodes.map NodeReport.nodeId = graph.nodes.map GraphNode.id := by
    rw [concluded.nodes, List.map_map]
    rfl
  have ownIds : (report.nodes.map NodeReport.nodeId).Nodup := ids ▸ distinct
  refine ⟨ids, distinct, fun id => ?_, fun node member => ?_⟩
  · cases found : report.node? id with
    | some node =>
        obtain ⟨member, rfl⟩ := (GraphReport.node?_eq_some_iff ownIds).mp found
        obtain ⟨-, -, saved, -, same, sockets, -⟩ := concluded.exists_of_mem_nodes member
        rw [← same]
        exact sockets
    | none =>
        refine concluded.typed.sockets.others id fun saved member same => ?_
        have listed : id ∈ report.nodes.map NodeReport.nodeId := by
          rw [ids, ← same]
          exact List.mem_map_of_mem member
        obtain ⟨node, nodeMember, own⟩ := List.mem_map.mp listed
        have present := (GraphReport.node?_eq_some_iff ownIds).mpr ⟨nodeMember, own⟩
        rw [found] at present
        cases present
  · obtain ⟨context, -, saved, -, -, -, own⟩ := concluded.exists_of_mem_nodes member
    rw [own]
    exact palette.named_sockets saved.kind saved.stored context

theorem showsTypes
    (concluded : seat.Concluded Calm graph document palette report before)
    (distinct : (graph.nodes.map GraphNode.id).Nodup) :
    report.ShowsTypes graph := by
  have reports := concluded.reports distinct
  refine ⟨reports.ids, fun node member input among type => ?_⟩
  obtain ⟨context, fed, saved, -, -, -, own⟩ := concluded.exists_of_mem_nodes member
  rw [← reports.feedOf?_eq member among, Graph.feedOf?, ← fed]
  exact palette.refined_iff_of_mem_inputs saved.kind saved.stored context (own ▸ among) type

/-- One more pass that is fed by what is reported finds the sockets of the report. -/
theorem ensures_resolveAll
    (concluded : seat.Concluded Calm graph document palette report before)
    (distinct : (graph.nodes.map GraphNode.id).Nodup) :
    (seat.resolveAll (graph.feeds report.resolved)).Ensures before fun again _ =>
      ∀ id, again.get? id = (report.node? id).map NodeReport.sockets := by
  obtain rfl := concluded.sameGraph
  obtain rfl := concluded.sameDocument
  obtain rfl := concluded.samePalette
  have reports := concluded.reports distinct
  have stands : seat.Stands Calm (seat.read before.rest) before.registry before :=
    ⟨concluded.calm, rfl, rfl⟩
  rw [reports.feeds_resolved]
  refine (AnalysisSeat.ensures_resolveAll stands (concluded.reachable.consistent _) distinct
    _).mono ?_
  rintro again _ ⟨resolved, -⟩ id
  rw [← reports.sockets id]
  exact resolved.get?_eq concluded.typed.sockets id

end Concluded

/-- An analysis that has not begun or is done comes to its end. -/
theorem Attended.concludes
    (attended : seat.Attended Calm)
    (calm : Calm before.rest)
    {analysis : Analysis}
    (held : seat.read before.rest = analysis)
    (rests : analysis.Rests)
    (inner : analysis.palette.Inner)
    (distinct : (analysis.graph.nodes.map GraphNode.id).Nodup)
    (reachable : before.registry.Reachable) :
    seat.analyze.Ensures before
      (seat.Concluded Calm analysis.graph analysis.document analysis.palette) := by
  have standsOn : seat.StandsOn Calm analysis [] before :=
    ⟨calm, held, reachable, fun id among => by cases among⟩
  rcases rests with analyzed | fresh
  · rw [ensures_congr (outcome_analyze_again (by rw [held, analyzed])), ensures_bind]
    exact (standsOn.ensures_close attended).mono fun _ _ closed =>
      closed.concludes_anew attended distinct inner
  · rw [ensures_congr (outcome_analyze (by rw [held, fresh]; rfl))]
    rw [fresh] at standsOn
    exact standsOn.concludes_anew attended distinct inner

/-- The report of an analysis that has not begun or is done shows the types that come into its
inputs by the sockets that it reports, and one more pass changes nothing. -/
theorem Attended.analyze_showsTypes
    (attended : seat.Attended Calm)
    (calm : Calm before.rest)
    {analysis : Analysis}
    (held : seat.read before.rest = analysis)
    (rests : analysis.Rests)
    (inner : analysis.palette.Inner)
    (distinct : (analysis.graph.nodes.map GraphNode.id).Nodup)
    (reachable : before.registry.Reachable) :
    seat.analyze.Ensures before fun report after =>
      report.ShowsTypes analysis.graph ∧
        (seat.resolveAll (analysis.graph.feeds report.resolved)).Ensures after fun again _ =>
          ∀ id, again.get? id = (report.node? id).map NodeReport.sockets :=
  (attended.concludes calm held rests inner distinct reachable).mono fun _ _ concluded =>
    ⟨concluded.showsTypes distinct, concluded.ensures_resolveAll distinct⟩

/-- A number and then a text feed one print, and a loop variable feeds another one. -/
def overlaid : Graph where
  nodes :=
    [⟨"num", "Number", []⟩,
     ⟨"text", "String", []⟩,
     ⟨"first", "Print", []⟩,
     ⟨"each", "ForLoop", [("variableName", .text "i")]⟩,
     ⟨"get-i", "VariableGet", [("variableName", .text "i")]⟩,
     ⟨"second", "Print", []⟩]
  edges :=
    [⟨"e1", "num", "first", some "output", some "value", []⟩,
     ⟨"e2", "text", "first", none, some "value", []⟩,
     ⟨"e3", "each", "second", some "loop", some "prev", []⟩,
     ⟨"e4", "get-i", "second", none, some "value", []⟩,
     ⟨"e5", "gone", "second", none, some "value", []⟩]

theorem analyze_showsTypes_overlaid :
    (overlaid.nodes.map GraphNode.id).Nodup ∧ (∅ : Registry).Reachable ∧
      alone.analyze.Ensures (Workspace.fresh (.prepare overlaid "graph" .standard))
        fun report after =>
          report.ShowsTypes overlaid ∧
            (alone.resolveAll (overlaid.feeds report.resolved)).Ensures after fun again _ =>
              ∀ id, again.get? id = (report.node? id).map NodeReport.sockets := by
  have distinct : (overlaid.nodes.map GraphNode.id).Nodup := by decide
  have reachable : (∅ : Registry).Reachable := ⟨[], .start⟩
  exact ⟨distinct, reachable, attended_alone.analyze_showsTypes trivial rfl (Or.inr rfl)
    Palette.inner_standard distinct reachable⟩

/-- The text is shown at the one print, and the type of the loop variable at the other one. -/
example :
    alone.analyze.Ensures (Workspace.fresh (.prepare overlaid "graph" .standard)) fun _ after =>
      let final := (alone.read after.rest).sockets
      (final.get? "first").map (fun node => node.inputs.map Socket.refined) =
          some [none, some .string] ∧
        (final.get? "second").map (fun node => node.inputs.map Socket.refined) =
          some [none, some .number] := by
  have ordered : Graph.outermostFirst (Graph.owners .standard overlaid)
      (Graph.assignScopes .standard overlaid ∅) = Graph.owners .standard overlaid :=
    List.mergeSort_of_pairwise (by decide +kernel)
  refine ensures_of_isOk ?_ ?_ <;> (rw [outcome_analyze_prepare, ordered]; decide +kernel)

end AnalysisSeat

end LuauNodes
