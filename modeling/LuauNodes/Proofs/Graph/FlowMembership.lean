import LuauNodes.Proofs.Graph.BodyReach
import LuauNodes.Proofs.Graph.Mirroring

/-!
# Statements in scopes

Where an analysis puts the nodes that execution comes to.  Such a node sits in
the scope of the first owner whose body it lies in.  But the body of an owner
follows every edge, also the edges that carry values: it is what execution comes
to from the body outputs only as long as no value that is computed in the body is
used by a statement behind it.
-/

namespace LuauNodes

namespace Graph

variable {palette : Palette} {graph : Graph} {owner : GraphNode}

/-- A node with sockets for execution order. -/
def IsStatement (palette : Palette) (node : GraphNode) : Prop :=
  (palette.sockets node.kind node.stored .empty).hasFlow = true
  deriving Decidable

/-- An edge that leaves its source through an output for execution order. -/
def LeavesFlow (palette : Palette) (node : GraphNode) (edge : GraphEdge) : Prop :=
  let sockets := palette.sockets node.kind node.stored .empty
  ∃ socket ∈ sockets.output? ((handleAmong edge.sourceHandle sockets.outputs).getD ""),
    socket.type.isFlow = true
  deriving Decidable

/-- Every statement that is said to sit in the scope of an owner is one that execution comes to
from a body output of the owner. -/
def FollowsFlow
    (graph : Graph)
    (palette : Palette)
    (report : GraphReport)
    (owner : GraphNode × ScopeKind) :
    Prop :=
  ∀ node ∈ graph.nodes, IsStatement palette node →
    ∀ reported ∈ report.nodes, reported.nodeId = node.id →
      reported.scopeId = some (scopeIdFor owner.1.id owner.2) →
        ReachedFrom palette graph (LeavesFlow palette) owner.1 node.id

/-- What the body of an owner computes for a statement, it computes for one that execution comes
to from a body output of the owner. -/
def KeepsValues (graph : Graph) (palette : Palette) (owner : GraphNode) : Prop :=
  ∀ id node edge target, InBody palette graph owner id → graph.node? id = some node →
    edge ∈ graph.outgoing id → Onward palette owner node edge → ¬ LeavesFlow palette node edge →
      graph.node? edge.target = some target → IsStatement palette target →
        ReachedFrom palette graph (LeavesFlow palette) owner edge.target

theorem LeavesFlow.isStatement
    {node : GraphNode}
    {edge : GraphEdge}
    (leaves : LeavesFlow palette node edge) :
    IsStatement palette node := by
  obtain ⟨socket, found, flow⟩ := leaves
  have member := List.mem_of_find?_eq_some (Option.mem_def.mp found)
  exact List.any_eq_true.mpr ⟨socket, List.mem_append_right _ member, flow⟩

theorem IsStatement.isPure_eq_false
    {node : GraphNode}
    (acts : IsStatement palette node) :
    isPure palette node = false := by
  rw [isPure, acts]
  simp

theorem node?_eq_some
    (distinct : (graph.nodes.map GraphNode.id).Nodup)
    {node : GraphNode}
    (member : node ∈ graph.nodes) :
    graph.node? node.id = some node := by
  cases found : graph.node? node.id with
  | none =>
      have missing := List.find?_eq_none.mp found node member
      simp at missing
  | some other =>
      have among := List.mem_of_find?_eq_some found
      rw [List.inj_on_of_nodup_map distinct among member (id_eq_of_node? found)]

/-- Execution comes to the statements in a body that keeps its values. -/
theorem KeepsValues.reachedFrom
    (keeps : graph.KeepsValues palette owner)
    {id : String}
    {node : GraphNode}
    (reached : ReachedFrom palette graph (Onward palette owner) owner id)
    (found : graph.node? id = some node)
    (acts : IsStatement palette node) :
    ReachedFrom palette graph (LeavesFlow palette) owner id := by
  obtain ⟨entry, enters, path⟩ := reached
  induction path generalizing node with
  | refl => exact ⟨entry, enters, .refl⟩
  | @tail id next path step ih =>
      obtain ⟨source, sourceFound, edge, leaves, onward, rfl⟩ := step
      by_cases flow : LeavesFlow palette source edge
      · -- The source has an output for execution order, so execution comes to it as well.
        exact (ih sourceFound flow.isStatement).step
          ⟨source, sourceFound, edge, leaves, flow, rfl⟩
      · have lies : InBody palette graph owner id :=
          ⟨id_eq_of_node? sourceFound ▸ onward.1, entry, enters, path⟩
        exact keeps id source edge node lies sourceFound leaves onward flow found acts

/-- An owner whose body has a node, while those of earlier owners do not. -/
def FirstAround
    (palette : Palette)
    (graph : Graph)
    (id : String)
    (owner : GraphNode × ScopeKind) :
    Prop :=
  ∃ earlier later, owners palette graph = earlier ++ owner :: later ∧
    InBody palette graph owner.1 id ∧ ∀ other ∈ earlier, ¬ InBody palette graph other.1 id

theorem scopeOf_assignScopes_statement
    (distinct : (graph.nodes.map GraphNode.id).Nodup)
    {node : GraphNode}
    (member : node ∈ graph.nodes)
    (acts : IsStatement palette node) :
    (∃ owner, FirstAround palette graph node.id owner ∧
      (assignScopes palette graph ∅).scopeOf node.id = some (scopeIdFor owner.1.id owner.2)) ∨
    (∀ owner ∈ owners palette graph, ¬ InBody palette graph owner.1 node.id) ∧
      (assignScopes palette graph ∅).scopeOf node.id = none := by
  have inBody : ∀ owner : GraphNode × ScopeKind,
      node.id ∈ bodyReach palette graph owner.1 ↔ InBody palette graph owner.1 node.id := by
    intro owner
    rw [mem_bodyReach_iff, node?_eq_some distinct member]
    exact and_iff_left rfl
  rw [scopeOf_assignScopes distinct member acts.isPure_eq_false]
  cases search : (owners palette graph).find? fun owner =>
      decide (node.id ∈ bodyReach palette graph owner.1) with
  | none =>
      refine Or.inr ⟨fun owner among lies => ?_, rfl⟩
      exact List.find?_eq_none.mp search owner among (decide_eq_true ((inBody owner).mpr lies))
  | some owner =>
      obtain ⟨here, earlier, later, split, before⟩ := List.find?_eq_some_iff_append.mp search
      have lies := (inBody owner).mp (of_decide_eq_true here)
      refine Or.inl ⟨owner, ⟨earlier, later, split, lies, fun other among otherLies => ?_⟩, rfl⟩
      have missed := before other among
      rw [decide_eq_true ((inBody other).mpr otherLies)] at missed
      cases missed

/-- A report puts the statements of a graph where the bodies of the owners put them. -/
structure PlacesStatements (graph : Graph) (palette : Palette) (report : GraphReport) : Prop where
  /-- A statement that sits in a scope lies in the body of its owner, and of no earlier one. -/
  inside : ∀ node ∈ graph.nodes, IsStatement palette node →
    ∀ reported ∈ report.nodes, reported.nodeId = node.id →
      ∀ scopeId, reported.scopeId = some scopeId →
        ∃ owner, FirstAround palette graph node.id owner ∧
          scopeId = scopeIdFor owner.1.id owner.2
  /-- A statement that sits in no scope lies in no body, or it is an owner that was put there as
  owners lie in each other's bodies. -/
  outside : ∀ node ∈ graph.nodes, IsStatement palette node →
    ∀ reported ∈ report.nodes, reported.nodeId = node.id → reported.scopeId = none →
      (∀ owner ∈ owners palette graph, ¬ InBody palette graph owner.1 node.id) ∨
        RunsIntoCycle (owners palette graph) (assignScopes palette graph ∅) node.id
  /-- Where a body keeps its values, execution comes to the statements in it. -/
  flow : ∀ owner ∈ owners palette graph, graph.KeepsValues palette owner.1 →
    graph.FollowsFlow palette report owner

variable {document : String} {final : Membership} {registry : Registry} {report : GraphReport}

theorem Mirrored.exists_report
    (mirrored : graph.Mirrored palette document final registry report)
    {node : GraphNode}
    (member : node ∈ graph.nodes) :
    ∃ reported ∈ report.nodes, reported.nodeId = node.id ∧
      reported.scopeId = final.scopeOf node.id := by
  have pair : (node.id, final.scopeOf node.id) ∈
      report.nodes.map fun node => (node.nodeId, node.scopeId) :=
    mirrored.nodes ▸ List.mem_map_of_mem member
  obtain ⟨reported, among, same⟩ := List.mem_map.mp pair
  obtain ⟨sameId, scope⟩ := Prod.mk.inj same
  exact ⟨reported, among, sameId, scope⟩

theorem Mirrored.placesStatements
    (mirrored : graph.Mirrored palette document final registry report)
    (distinct : (graph.nodes.map GraphNode.id).Nodup) :
    graph.PlacesStatements palette report := by
  have inside : ∀ node ∈ graph.nodes, IsStatement palette node →
      ∀ reported ∈ report.nodes, reported.nodeId = node.id →
        ∀ scopeId, reported.scopeId = some scopeId →
          ∃ owner, FirstAround palette graph node.id owner ∧
            scopeId = scopeIdFor owner.1.id owner.2 := by
    intro node member acts reported among same scopeId scope
    rw [scopeId_eq_of_nodes mirrored.nodes among, same] at scope
    have kept : final.scopeOf node.id = (assignScopes palette graph ∅).scopeOf node.id := by
      by_contra moved
      rw [(mirrored.rehomed node.id moved).1] at scope
      cases scope
    rw [kept] at scope
    rcases scopeOf_assignScopes_statement distinct member acts with
      ⟨owner, first, assigned⟩ | ⟨_, bare⟩
    · exact ⟨owner, first, Option.some.inj (scope.symm.trans assigned)⟩
    · rw [bare] at scope
      cases scope
  constructor
  case inside => exact inside
  case outside =>
    intro node member acts reported among same bare
    rw [scopeId_eq_of_nodes mirrored.nodes among, same] at bare
    by_cases kept : final.scopeOf node.id = (assignScopes palette graph ∅).scopeOf node.id
    · rcases scopeOf_assignScopes_statement distinct member acts with
        ⟨owner, _, assigned⟩ | ⟨none, _⟩
      · rw [kept, assigned] at bare
        cases bare
      · exact Or.inl none
    · exact Or.inr (mirrored.rehomed node.id kept).2.2
  case flow =>
    intro owner owns keeps node member acts reported among same scope
    obtain ⟨first, ⟨earlier, later, split, lies, _⟩, sameScope⟩ :=
      inside node member acts reported among same _ scope
    have firstOwns : first ∈ owners palette graph := by
      rw [split]
      exact List.mem_append_right _ List.mem_cons_self
    obtain rfl := mirrored.apart owner owns first firstOwns sameScope
    exact keeps.reachedFrom lies.2 (node?_eq_some distinct member) acts

end Graph

namespace AnalysisSeat

open Act

variable {η : Type} {seat : AnalysisSeat η} {Calm : η → Prop}

/-- An analysis of a graph with different identifiers, in a document without scopes, comes to its
end and reports the statements where the bodies of the owners put them. -/
theorem Attended.analyze_placesStatements
    (attended : seat.Attended Calm)
    {before : Workspace η}
    (calm : Calm before.rest)
    {graph : Graph}
    {document : String}
    {palette : Palette}
    (fresh : seat.read before.rest = .prepare graph document palette)
    (distinct : (graph.nodes.map GraphNode.id).Nodup)
    (inner : palette.Inner)
    (bare : before.registry.scopes.list document = []) :
    seat.analyze.Ensures before fun report _ => graph.PlacesStatements palette report := by
  refine (attended.analyze_settles calm fresh distinct inner bare).mono ?_
  rintro report after ⟨settled, laidOut, nodes, scopes⟩
  exact (Graph.mirrored_of_settled distinct settled laidOut nodes scopes).placesStatements distinct

/-- A loop packs a table and prints it in its body. -/
def printingLoop : Graph where
  nodes :=
    [⟨"loop", "ForLoop", []⟩,
     ⟨"pack", "TablePack", []⟩,
     ⟨"print", "Print", []⟩]
  edges :=
    [⟨"e1", "loop", "pack", some "loop", some "prev", []⟩,
     ⟨"e2", "pack", "print", some "packed", some "value", []⟩,
     ⟨"e3", "pack", "print", some "next", some "prev", []⟩]

theorem keepsValues_printingLoop :
    printingLoop.KeepsValues .standard ⟨"loop", "ForLoop", []⟩ := by
  intro id node edge target lies found leaves onward _ targetFound acts
  obtain ⟨listed, source⟩ := List.mem_filter.mp leaves
  obtain rfl := eq_of_beq source
  -- Both edges out of the packing node lead to the printing one, and one carries execution order.
  have printed : edge.target = "print" := by
    simp only [printingLoop, List.mem_cons, List.not_mem_nil, or_false] at listed
    rcases listed with rfl | rfl | rfl
    · exact absurd rfl lies.1
    · rfl
    · rfl
  rw [printed]
  refine ⟨"pack", by decide +kernel, .single ⟨⟨"pack", "TablePack", []⟩, rfl, ?_⟩⟩
  exact ⟨⟨"e3", "pack", "print", some "next", some "prev", []⟩,
    by simp [printingLoop, Graph.outgoing], by decide +kernel, rfl⟩

theorem analyze_placesStatements_printingLoop :
    (printingLoop.nodes.map GraphNode.id).Nodup ∧
      (Graph.assignScopes .standard printingLoop ∅).scopeOf "print" = some "loop-loop-scope" ∧
      printingLoop.KeepsValues .standard ⟨"loop", "ForLoop", []⟩ ∧
      alone.analyze.Ensures (Workspace.fresh (.prepare printingLoop "graph" .standard))
        fun report _ => printingLoop.PlacesStatements .standard report :=
  ⟨by decide, by decide +kernel, keepsValues_printingLoop,
    attended_alone.analyze_placesStatements trivial rfl (by decide) Palette.inner_standard rfl⟩

/-- A loop packs a table in its body, and prints it when it is done. -/
def leakingLoop : Graph where
  nodes :=
    [⟨"for-1", "ForLoop", []⟩,
     ⟨"pack", "TablePack", []⟩,
     ⟨"print", "Print", []⟩]
  edges :=
    [⟨"e1", "for-1", "pack", some "loop", some "prev", []⟩,
     ⟨"e2", "pack", "print", some "packed", some "value", []⟩,
     ⟨"e3", "for-1", "print", some "done", some "prev", []⟩]

theorem not_reachedFrom_leakingLoop :
    ¬ Graph.ReachedFrom .standard leakingLoop (Graph.LeavesFlow .standard)
      ⟨"for-1", "ForLoop", []⟩ "print" := by
  have entries : Graph.bodyTargets .standard leakingLoop ⟨"for-1", "ForLoop", []⟩ = ["pack"] := by
    decide +kernel
  have stays : ∀ next, ¬ Graph.StepsTo leakingLoop (Graph.LeavesFlow .standard) "pack" next := by
    rintro next ⟨node, found, edge, leaves, flow, _⟩
    obtain rfl : node = ⟨"pack", "TablePack", []⟩ := Option.some.inj (found.symm.trans rfl)
    obtain rfl : edge = ⟨"e2", "pack", "print", some "packed", some "value", []⟩ := by
      simpa [leakingLoop, Graph.outgoing] using leaves
    revert flow
    decide +kernel
  rintro ⟨entry, enters, path⟩
  rw [entries, List.mem_singleton] at enters
  subst enters
  rcases Relation.ReflTransGen.cases_head path with same | ⟨next, step, _⟩
  · revert same
    decide
  · exact stays next step

theorem alone_analyze_leakingLoop :
    (leakingLoop.nodes.map GraphNode.id).Nodup ∧
      (∀ node ∈ leakingLoop.nodes, Palette.standard.contains node.kind = true) ∧
      alone.analyze.Ensures (Workspace.fresh (.prepare leakingLoop "graph" .standard))
        fun report _ => ¬ ∀ owner ∈ Graph.owners .standard leakingLoop,
          leakingLoop.FollowsFlow .standard report owner := by
  refine ⟨by decide, by decide +kernel, ?_⟩
  refine (attended_alone.analyze_settles trivial rfl (by decide) Palette.inner_standard rfl).mono ?_
  rintro report after ⟨settled, laidOut, nodes, scopes⟩ follows
  have mirrored := Graph.mirrored_of_settled (by decide) settled laidOut nodes scopes
  have owners : (Graph.owners .standard leakingLoop).map (fun owner => owner.1.id) = ["for-1"] := by
    decide +kernel
  have assigned : (Graph.assignScopes .standard leakingLoop ∅).scopeOf "print" =
      some (scopeIdFor "for-1" .loop) := by
    decide +kernel
  have placed : (alone.read after.rest).members.scopeOf "print" =
      some (scopeIdFor "for-1" .loop) := by
    rw [← assigned]
    by_contra moved
    obtain ⟨_, ⟨owner, owns, same⟩, _⟩ := mirrored.rehomed "print" moved
    have listed : owner.1.id ∈ ["for-1"] := owners ▸ List.mem_map_of_mem owns
    rw [same] at listed
    revert listed
    decide
  have printed : (⟨"print", "Print", []⟩ : GraphNode) ∈ leakingLoop.nodes := by
    simp [leakingLoop]
  obtain ⟨reported, among, sameId, scope⟩ := mirrored.exists_report printed
  have owns : ((⟨"for-1", "ForLoop", []⟩, .loop) : GraphNode × ScopeKind) ∈
      Graph.owners .standard leakingLoop :=
    (Graph.mem_owners_iff _).mpr ⟨by simp [leakingLoop], by decide +kernel⟩
  refine not_reachedFrom_leakingLoop ?_
  exact follows _ owns _ printed (by decide +kernel) reported among sameId (scope.trans placed)

end AnalysisSeat

end LuauNodes
