import LuauNodes.Proofs.Graph.ShownTypes

/-!
# Verdicts on edges

An analysis judges the edges of its graph by the sockets that it has kept, which
know what feeds them.  An edge may also be checked on its own: by the kinds and
the stored data of the nodes at its ends, and by what is visible where they sit.
Both come to the same verdict, because a verdict looks at the types that sockets
have, and these are the same whatever feeds a node.
-/

namespace LuauNodes

/-! ## Checks of one edge -/

/-- The nodes are named in the problem, but its code does not depend on them. -/
theorem code_problem_checkConnection
    (source : NodeSockets)
    (sourceHandle : Option String)
    (target : NodeSockets)
    (targetHandle : Option String)
    (sourceNode targetNode otherSource otherTarget : String) :
    (checkConnection source sourceHandle target targetHandle sourceNode targetNode).problem.map
        Problem.code =
      (checkConnection source sourceHandle target targetHandle otherSource otherTarget).problem.map
        Problem.code := by
  unfold checkConnection
  split
  · rfl
  · split
    · rfl
    · split <;> rfl

/-- The check of two nodes by their sockets does not depend on what feeds them. -/
theorem Palette.checkConnection_fedBy
    (palette : Palette)
    (sourceKind : String)
    (sourceStored : Json)
    (sourceHandle : Option String)
    (sourceContext : SocketContext)
    (targetKind : String)
    (targetStored : Json)
    (targetHandle : Option String)
    (targetContext : SocketContext)
    (sourceFeeds targetFeeds : Feeds) :
    palette.checkConnection sourceKind sourceStored sourceHandle (sourceContext.fedBy sourceFeeds)
        targetKind targetStored targetHandle (targetContext.fedBy targetFeeds) =
      palette.checkConnection sourceKind sourceStored sourceHandle sourceContext
        targetKind targetStored targetHandle targetContext := by
  rw [Palette.checkConnection, Palette.checkConnection, ← checkConnection_unrefined,
    palette.unrefined_sockets_fedBy, palette.unrefined_sockets_fedBy, checkConnection_unrefined]

/-- What feeds a node is no part of what is visible from it. -/
theorem SocketContext.ofRegistry_fedBy
    {registry : Registry}
    {document : String}
    {scopeId : Option String}
    {feeds : Feeds}
    {context : SocketContext}
    (found : ofRegistry registry document scopeId feeds = .ok context)
    (other : Feeds) :
    ofRegistry registry document scopeId other = .ok (context.fedBy other) := by
  unfold ofRegistry at found ⊢
  split at found
  · rename_i vars functions varsShown functionsShown
    cases found
    rfl
  · cases found
  · cases found

/-! ## Edges of a graph -/

namespace Graph

variable {graph : Graph} {resolved : ResolvedNodes}

/-- What is wrong with the edges is told edge by edge, in their order. -/
theorem map_edge_edgeIssues (graph : Graph) (resolved : ResolvedNodes) :
    (graph.edgeIssues resolved).map EdgeIssue.edge =
      graph.edges.filter fun edge => (edgeProblem? resolved edge).isSome := by
  unfold edgeIssues
  rw [List.map_filterMap, ← List.filterMap_eq_filter]
  refine List.filterMap_congr fun edge _ => ?_
  rw [Option.guard]
  cases edgeProblem? resolved edge <;> rfl

/-- An edge begins or ends at no node. -/
def Dangles (graph : Graph) (edge : GraphEdge) : Prop :=
  (∀ node ∈ graph.nodes, node.id ≠ edge.source) ∨ ∀ node ∈ graph.nodes, node.id ≠ edge.target

theorem code_edgeProblem?_of_dangles
    {palette : Palette}
    {document : String}
    {members : Membership}
    {registry : Registry}
    {feeds : GraphFeeds}
    (sockets : graph.ResolvedIn palette document members registry feeds resolved)
    {edge : GraphEdge}
    (dangles : graph.Dangles edge) :
    (edgeProblem? resolved edge).map Problem.code = some "UNKNOWN_EDGE_ENDPOINT" := by
  unfold edgeProblem?
  rcases dangles with missing | missing
  · rw [sockets.others edge.source missing]
    rfl
  · rw [sockets.others edge.target missing]
    cases resolved.get? edge.source <;> rfl

/-- Where both handles are given, an edge is judged as a connection between the sockets of the
nodes at its ends. -/
theorem edgeProblem?_of_handles
    {edge : GraphEdge}
    {source target : NodeSockets}
    {sourceHandle targetHandle : String}
    (begins : resolved.get? edge.source = some source)
    (ends : resolved.get? edge.target = some target)
    (fromHandle : edge.sourceHandle = some sourceHandle)
    (toHandle : edge.targetHandle = some targetHandle) :
    edgeProblem? resolved edge =
      (checkConnection source edge.sourceHandle target edge.targetHandle edge.source
        edge.target).problem := by
  unfold edgeProblem?
  rw [begins, ends, fromHandle, toHandle]
  rfl

end Graph

/-! ## Reports -/

namespace GraphReport

/-- What is visible from a node where a report places it, with nothing known of what feeds it. -/
def surroundings
    (report : GraphReport)
    (document : String)
    (registry : Registry)
    (nodeId : String) :
    Except TreeFault SocketContext :=
  SocketContext.ofRegistry registry document ((report.node? nodeId).bind NodeReport.scopeId) ∅

/-- Checks an edge on its own, between two nodes in the surroundings that a report gives them. -/
def checkAlone
    (report : GraphReport)
    (palette : Palette)
    (document : String)
    (registry : Registry)
    (edge : GraphEdge)
    (source target : GraphNode) :
    Except TreeFault ConnectionCheck := do
  let sourceContext ← report.surroundings document registry source.id
  let targetContext ← report.surroundings document registry target.id
  return palette.checkConnection source.kind source.stored edge.sourceHandle sourceContext
    target.kind target.stored edge.targetHandle targetContext

/-- A report lists the edges of a graph that some verdict does not allow, each once and in their
order.  The verdict is that an end is missing where an edge begins or ends at no node, and where
both ends and both handles are there, it is the verdict of a check of the edge on its own. -/
structure JudgesEdges
    (report : GraphReport)
    (graph : Graph)
    (palette : Palette)
    (document : String)
    (registry : Registry)
    (verdict : GraphEdge → Option Problem) :
    Prop where
  issues : report.issues = graph.edges.filterMap fun edge =>
    (verdict edge).map fun problem => ⟨edge, problem⟩
  ordered : (report.issues.map EdgeIssue.edge).Sublist graph.edges
  dangling : ∀ edge ∈ graph.edges, graph.Dangles edge →
    (verdict edge).map Problem.code = some "UNKNOWN_EDGE_ENDPOINT"
  live : ∀ edge ∈ graph.edges, ∀ source ∈ graph.nodes, ∀ target ∈ graph.nodes,
    source.id = edge.source → target.id = edge.target →
    edge.sourceHandle.isSome → edge.targetHandle.isSome →
    ∃ check, report.checkAlone palette document registry edge source target = .ok check ∧
      ((verdict edge).isNone ↔ check.allowed) ∧
      (verdict edge).map Problem.code = check.problem.map Problem.code

end GraphReport

namespace AnalysisSeat

variable {η : Type} {seat : AnalysisSeat η} {Calm : η → Prop} {before : Workspace η}
variable {graph : Graph} {document : String} {palette : Palette} {report : GraphReport}

namespace Concluded

/-- A report gives a node the surroundings in which its sockets were resolved. -/
theorem exists_surroundings
    (concluded : seat.Concluded Calm graph document palette report before)
    (distinct : (graph.nodes.map GraphNode.id).Nodup)
    {node : GraphNode}
    (member : node ∈ graph.nodes) :
    ∃ context feeds,
      report.surroundings document before.registry node.id = .ok context ∧
        (seat.read before.rest).sockets.get? node.id =
          some (palette.sockets node.kind node.stored (context.fedBy feeds)) := by
  obtain ⟨context, found, sockets⟩ := concluded.typed.sockets.nodes node member
  have shown : report.node? node.id = some ⟨node.id, node.kind,
      (seat.read before.rest).members.scopeOf node.id,
      (seat.read before.rest).sockets.getD node.id (.sound [] [])⟩ := by
    refine (concluded.reports distinct).node?_eq_some_iff.mpr ⟨?_, rfl⟩
    rw [concluded.nodes]
    exact List.mem_map_of_mem member
  refine ⟨context.fedBy ∅, context.feeds, ?_, sockets⟩
  rw [GraphReport.surroundings, shown]
  exact SocketContext.ofRegistry_fedBy found ∅

theorem judgesEdges
    (concluded : seat.Concluded Calm graph document palette report before)
    (distinct : (graph.nodes.map GraphNode.id).Nodup) :
    report.JudgesEdges graph palette document before.registry
      (Graph.edgeProblem? (seat.read before.rest).sockets) := by
  constructor
  case issues => exact concluded.issues
  case ordered =>
    rw [concluded.issues, Graph.map_edge_edgeIssues]
    exact List.filter_sublist
  case dangling =>
    exact fun edge _ dangles => Graph.code_edgeProblem?_of_dangles concluded.typed.sockets dangles
  case live =>
    intro edge _ source sourceMember target targetMember begins ends fromHandle toHandle
    obtain ⟨sourceHandle, fromHandle⟩ := Option.isSome_iff_exists.mp fromHandle
    obtain ⟨targetHandle, toHandle⟩ := Option.isSome_iff_exists.mp toHandle
    obtain ⟨sourceContext, sourceFeeds, sourceFound, sourceSockets⟩ :=
      concluded.exists_surroundings distinct sourceMember
    obtain ⟨targetContext, targetFeeds, targetFound, targetSockets⟩ :=
      concluded.exists_surroundings distinct targetMember
    have alike : (Graph.edgeProblem? (seat.read before.rest).sockets edge).map Problem.code =
        (palette.checkConnection source.kind source.stored edge.sourceHandle sourceContext
          target.kind target.stored edge.targetHandle targetContext).problem.map
          Problem.code := by
      rw [Graph.edgeProblem?_of_handles (begins ▸ sourceSockets) (ends ▸ targetSockets) fromHandle
        toHandle, code_problem_checkConnection _ _ _ _ _ _ source.kind target.kind]
      exact congrArg (fun check : ConnectionCheck => check.problem.map Problem.code)
        (palette.checkConnection_fedBy source.kind source.stored edge.sourceHandle sourceContext
          target.kind target.stored edge.targetHandle targetContext sourceFeeds targetFeeds)
    refine ⟨_, ?_, ?_, alike⟩
    · rw [GraphReport.checkAlone, sourceFound, targetFound]
      rfl
    · rw [ConnectionCheck.allowed, ← Option.isNone_map, alike, Option.isNone_map]

end Concluded

/-- The report of an analysis that has not begun or is done judges the edges of the graph as a
check of each of them on its own does. -/
theorem Attended.analyze_judgesEdges
    (attended : seat.Attended Calm)
    (calm : Calm before.rest)
    {analysis : Analysis}
    (held : seat.read before.rest = analysis)
    (rests : analysis.Rests)
    (inner : analysis.palette.Inner)
    (distinct : (analysis.graph.nodes.map GraphNode.id).Nodup)
    (reachable : before.registry.Reachable) :
    seat.analyze.Ensures before fun report after => ∃ verdict,
      report.JudgesEdges analysis.graph analysis.palette analysis.document after.registry
        verdict :=
  (attended.concludes calm held rests inner distinct reachable).mono fun _ _ concluded =>
    ⟨_, concluded.judgesEdges distinct⟩

/-- A function of a number is called with a text, what it gives is printed inside a loop, and two
edges lead nowhere. -/
def crossed : Graph where
  nodes :=
    [⟨"def", "FunctionDefinition", [("functionName", .text "f"), ("returnType", .text "number"),
       ("parameters", .list [.object [("name", .text "n"), ("type", .text "number")]])]⟩,
     ⟨"text", "String", []⟩,
     ⟨"each", "ForLoop", [("variableName", .text "i")]⟩,
     ⟨"call", "FunctionCall", [("functionName", .text "f")]⟩,
     ⟨"shown", "Print", []⟩]
  edges :=
    [⟨"e1", "def", "each", some "next", some "execute", []⟩,
     ⟨"e2", "each", "call", some "loop", some "prev", []⟩,
     ⟨"e3", "text", "call", some "output", some "param-0", []⟩,
     ⟨"e4", "call", "shown", some "result", some "value", []⟩,
     ⟨"e5", "text", "shown", some "result", some "value", []⟩,
     ⟨"e6", "shown", "gone", some "next", some "prev", []⟩]

theorem analyze_judgesEdges_crossed :
    (crossed.nodes.map GraphNode.id).Nodup ∧ (∅ : Registry).Reachable ∧
      alone.analyze.Ensures (Workspace.fresh (.prepare crossed "graph" .standard))
        fun report after => ∃ verdict,
          report.JudgesEdges crossed .standard "graph" after.registry verdict := by
  have distinct : (crossed.nodes.map GraphNode.id).Nodup := by decide
  have reachable : (∅ : Registry).Reachable := ⟨[], .start⟩
  exact ⟨distinct, reachable, attended_alone.analyze_judgesEdges trivial rfl (Or.inr rfl)
    Palette.inner_standard distinct reachable⟩

/-- The types of the function tell which of its edges are allowed, also from inside the loop. -/
example :
    alone.analyze.Ensures (Workspace.fresh (.prepare crossed "graph" .standard)) fun _ after =>
      (crossed.edgeIssues (alone.read after.rest).sockets).map
          (fun issue => (issue.edge.id, issue.problem.code)) =
        [("e3", "TYPE_MISMATCH"), ("e5", "UNKNOWN_SOURCE_SOCKET"),
         ("e6", "UNKNOWN_EDGE_ENDPOINT")] := by
  have ordered : Graph.outermostFirst (Graph.owners .standard crossed)
      (Graph.assignScopes .standard crossed ∅) = Graph.owners .standard crossed :=
    List.mergeSort_of_pairwise (by decide +kernel)
  refine Act.ensures_of_isOk ?_ ?_ <;>
    (rw [outcome_analyze_prepare, ordered]; decide +kernel)

end AnalysisSeat

end LuauNodes
