import LuauNodes.Proofs.Graph.Mounting

/-!
# Mirrored graphs

What an analysis reports of a graph whose nodes have different identifiers.  It
comes to its end, and then the stored scopes are nested as the nodes were
assigned to them, except for owners that lie in each other's bodies.
-/

namespace LuauNodes

/-- No kind of node owns the global scope. -/
def Palette.Inner (palette : Palette) : Prop :=
  ∀ id kind, palette.get? id = some kind → kind.scopeKind ≠ some .global

theorem Palette.inner_standard : Palette.standard.Inner := by
  intro id kind available
  obtain ⟨found, member, same⟩ :=
    List.mem_map.mp (OrderedMap.mem_of_get?_ofList_eq_some available)
  obtain ⟨-, rfl⟩ := Prod.mk.inj same
  have none : ∀ kind ∈ Catalogue.all, kind.scopeKind ≠ some .global := by decide
  exact none found member

theorem Palette.inner_ofIds (ids : List String) : (Palette.ofIds ids).Inner := by
  intro id kind available
  obtain ⟨other, _, found⟩ :=
    List.mem_filterMap.mp (OrderedMap.mem_of_get?_ofList_eq_some available)
  obtain ⟨_, standard, same⟩ := Option.map_eq_some_iff.mp found
  obtain ⟨-, rfl⟩ := Prod.mk.inj same
  exact inner_standard other _ standard

theorem Palette.Inner.owned
    {palette : Palette}
    (inner : palette.Inner)
    {graph : Graph}
    {owner : GraphNode × ScopeKind}
    (member : owner ∈ Graph.owners palette graph) :
    Graph.ownedKind? palette owner.1 = some owner.2 ∧ owner.2 ≠ .global := by
  have owns := ((Graph.mem_owners_iff owner).mp member).2
  obtain ⟨kind, available, scopeKind⟩ := Option.bind_eq_some_iff.mp owns
  refine ⟨owns, ?_⟩
  rintro global
  exact inner owner.1.kind kind available (scopeKind.trans (congrArg some global))

/-- Every palette that a session can ask for. -/
theorem Session.inner_paletteOf (kinds : Option (List String)) : (paletteOf kinds).Inner := by
  cases kinds with
  | none => exact Palette.inner_standard
  | some ids =>
      show ((Palette.ofIds ids).orStandard).Inner
      unfold Palette.orStandard
      split
      · exact Palette.inner_standard
      · exact Palette.inner_ofIds ids

/-- The scopes of a document mirror the wiring of a graph whose nodes sit in scopes as a final
membership says. -/
structure Graph.Mirrored
    (graph : Graph)
    (palette : Palette)
    (document : String)
    (final : Membership)
    (registry : Registry)
    (report : GraphReport) :
    Prop where
  /-- Every owner has its scope, inside the scope where the owner sits. -/
  mounted : ∀ owner ∈ owners palette graph, ∃ scope,
    registry.scopes.get? document (some (scopeIdFor owner.1.id owner.2)) = some scope ∧
      scope.kind = owner.2 ∧ scope.ownerNodeId = some owner.1.id ∧
      scope.parentId = final.scopeOf owner.1.id
  /-- No two owners share a scope. -/
  apart : ∀ owner ∈ owners palette graph, ∀ other ∈ owners palette graph,
    scopeIdFor owner.1.id owner.2 = scopeIdFor other.1.id other.2 → owner = other
  /-- The report says where every node sits. -/
  nodes : report.nodes.map (fun node => (node.nodeId, node.scopeId)) =
    graph.nodes.map fun node => (node.id, final.scopeOf node.id)
  /-- The report lists the scopes of the document. -/
  scopes : report.scopes = registry.scopes.list document
  /-- Every scope that a node is said to sit in is listed. -/
  listed : ∀ node ∈ report.nodes, ∀ scopeId, node.scopeId = some scopeId →
    ∃ scope ∈ report.scopes, scope.id = scopeId
  /-- An owner stays where it was assigned to if going outwards from there comes to an end. -/
  kept : ∀ owner ∈ owners palette graph,
    (∃ outer, OwnerChain (owners palette graph) (assignScopes palette graph ∅) owner.1.id outer) →
      final.scopeOf owner.1.id = (assignScopes palette graph ∅).scopeOf owner.1.id
  /-- Only an owner from which going outwards runs into a cycle is put elsewhere, and that is
  outside of every scope. -/
  rehomed : ∀ id, final.scopeOf id ≠ (assignScopes palette graph ∅).scopeOf id →
    final.scopeOf id = none ∧ (∃ owner ∈ owners palette graph, owner.1.id = id) ∧
      RunsIntoCycle (owners palette graph) (assignScopes palette graph ∅) id

theorem Graph.scopeId_eq_of_nodes
    {graph : Graph}
    {members : Membership}
    {report : GraphReport}
    (nodes : report.nodes.map (fun node => (node.nodeId, node.scopeId)) =
      graph.nodes.map fun node => (node.id, members.scopeOf node.id))
    {reported : NodeReport}
    (among : reported ∈ report.nodes) :
    reported.scopeId = members.scopeOf reported.nodeId := by
  have pair : (reported.nodeId, reported.scopeId) ∈
      graph.nodes.map fun node => (node.id, members.scopeOf node.id) :=
    nodes ▸ List.mem_map_of_mem among
  obtain ⟨node, _, same⟩ := List.mem_map.mp pair
  obtain ⟨sameId, scope⟩ := Prod.mk.inj same
  rw [← sameId, scope]

theorem Graph.mirrored_of_settled
    {graph : Graph}
    {palette : Palette}
    {document : String}
    {final : Membership}
    {registry : Registry}
    {report : GraphReport}
    (distinct : (graph.nodes.map GraphNode.id).Nodup)
    (settled : Settled (assignScopes palette graph ∅)
      (outermostFirst (owners palette graph) (assignScopes palette graph ∅)) final)
    (laidOut : registry.LaidOut document
      (planOf final (outermostFirst (owners palette graph) (assignScopes palette graph ∅))))
    (nodes : report.nodes.map (fun node => (node.nodeId, node.scopeId)) =
      graph.nodes.map fun node => (node.id, final.scopeOf node.id))
    (scopes : report.scopes = registry.scopes.list document) :
    graph.Mirrored palette document final registry report := by
  have distinctOwners : DistinctOwners (owners palette graph) := distinctOwners_owners distinct
  have housed : Housed (owners palette graph) (assignScopes palette graph ∅) :=
    housed_assignScopes distinct
  constructor
  case mounted =>
    intro owner member
    have planned : (scopeIdFor owner.1.id owner.2, owner.2, some owner.1.id,
        final.scopeOf owner.1.id) ∈
          planOf final (outermostFirst (owners palette graph) (assignScopes palette graph ∅)) :=
      List.mem_map_of_mem ((mem_outermostFirst owner).mpr member)
    obtain ⟨scope, stored, _, placement⟩ := laidOut.exists_stored planned
    exact ⟨scope, stored, placement⟩
  case apart =>
    intro owner member other otherMember same
    exact List.inj_on_of_nodup_map distinctOwners member otherMember (scopeIdFor_injective same).1
  case nodes => exact nodes
  case scopes => exact scopes
  case listed =>
    intro node reported scopeId sits
    rw [scopeId_eq_of_nodes nodes reported] at sits
    obtain ⟨owner, member, rfl⟩ := housed node.nodeId scopeId (settled.scopeOf_of_some sits)
    have listed : scopeIdFor owner.1.id owner.2 ∈ (registry.scopes.list document).map Scope.id := by
      rw [laidOut.list_ids, mem_planOf_iff]
      exact ⟨owner, (mem_outermostFirst owner).mpr member, rfl⟩
    rw [scopes]
    exact List.mem_map.mp listed
  case kept =>
    rintro owner member ⟨outer, chain⟩
    exact settled.kept_of_chain distinctOwners member chain
  case rehomed => exact fun id moved => settled.rehomed distinctOwners housed moved

namespace AnalysisSeat

open Act

variable {η : Type} {seat : AnalysisSeat η} {Calm : η → Prop}

/-- Assigning scopes gives an analysis the assigned membership. -/
theorem ensures_assign
    (attended : seat.Attended Calm)
    {before : Workspace η}
    (calm : Calm before.rest)
    {graph : Graph}
    {document : String}
    {palette : Palette}
    (fresh : seat.read before.rest = .prepare graph document palette)
    (bare : before.registry.scopes.list document = []) :
    seat.assign.Ensures before fun _ after =>
      seat.Underway Calm (.prepare graph document palette) (Graph.assignScopes palette graph ∅) []
        after := by
  have start : seat.Underway Calm (.prepare graph document palette) ∅ [] before :=
    ⟨calm, congrArg Analysis.graph fresh, congrArg Analysis.document fresh,
      congrArg Analysis.palette fresh, congrArg Analysis.members fresh,
      Registry.laidOut_nil bare⟩
  have updated : seat.Underway Calm (.prepare graph document palette)
      (Graph.assignScopes palette graph ∅) [] _ :=
    start.update attended
      (fun held => { held with members := Graph.assignScopes held.palette held.graph held.members })
      (fun _ => rfl) (fun _ => rfl) (fun _ => rfl) (by rw [fresh]; rfl)
  unfold assign
  simp only [ensures_bind, ensures_current, ensures_update, ensures_note]
  exact updated.transfer rfl rfl

/-- An analysis of a graph with different identifiers, in a document without scopes, comes to its
end with all owners mounted, and reports where the nodes sit then. -/
theorem Attended.analyze_settles
    (attended : seat.Attended Calm)
    {before : Workspace η}
    (calm : Calm before.rest)
    {graph : Graph}
    {document : String}
    {palette : Palette}
    (fresh : seat.read before.rest = .prepare graph document palette)
    (distinct : (graph.nodes.map GraphNode.id).Nodup)
    (inner : palette.Inner)
    (bare : before.registry.scopes.list document = []) :
    let assigned := Graph.assignScopes palette graph ∅
    let order := Graph.outermostFirst (Graph.owners palette graph) assigned
    seat.analyze.Ensures before fun report after =>
      let final := (seat.read after.rest).members
      Graph.Settled assigned order final ∧
        after.registry.LaidOut document (Graph.planOf final order) ∧
        report.nodes.map (fun node => (node.nodeId, node.scopeId)) =
          graph.nodes.map (fun node => (node.id, final.scopeOf node.id)) ∧
        report.scopes = after.registry.scopes.list document := by
  intro assigned order
  have owned : ∀ owner ∈ order, Graph.ownedKind? palette owner.1 = some owner.2 ∧
      owner.2 ≠ .global :=
    fun owner member => inner.owned ((Graph.mem_outermostFirst owner).mp member)
  have distinctOrder : Graph.DistinctOwners order :=
    (Graph.distinctOwners_owners distinct).outermostFirst assigned
  unfold analyze
  simp only [ensures_bind, ensures_current]
  rw [fresh]
  simp only [Analysis.prepare, Bool.false_eq_true, if_false, ensures_bind]
  refine (ensures_assign attended calm fresh bare).mono fun _ afterAssigning underway => ?_
  rw [ensures_current, underway.palette, underway.graph, underway.members]
  refine (ensures_mountOwners attended owned distinctOrder underway).mono ?_
  rintro _ mounted ⟨final, settled, holds⟩
  refine (keeps_declareAll attended .functions ∅ _ holds).mono fun _ _ holds => ?_
  refine (keeps_feedsAfter ∅ _ holds).mono fun feeds _ holds => ?_
  refine (keeps_declareAll attended .vars feeds _ holds).mono fun _ _ holds => ?_
  refine (keeps_feedsAfter ∅ _ holds).mono fun feeds _ holds => ?_
  refine (keeps_resolveAll feeds _ holds).mono fun resolved last holds => ?_
  have finished := holds.update attended
    (fun held => { held with sockets := resolved, analyzed := true })
    (fun _ => rfl) (fun _ => rfl) (fun _ => rfl) holds.members
  rw [ensures_update]
  simp only [report, ensures_bind, ensures_current, ensures_registry, ensures_pure, ensures_note]
  rw [finished.members]
  refine ⟨settled, finished.laidOut, ?_, ?_⟩
  · rw [List.map_map, finished.graph]
    rfl
  · rw [finished.document]
    rfl

/-- The scopes of the document then mirror the wiring. -/
theorem Attended.analyze_mirrored
    (attended : seat.Attended Calm)
    {before : Workspace η}
    (calm : Calm before.rest)
    {graph : Graph}
    {document : String}
    {palette : Palette}
    (fresh : seat.read before.rest = .prepare graph document palette)
    (distinct : (graph.nodes.map GraphNode.id).Nodup)
    (inner : palette.Inner)
    (bare : before.registry.scopes.list document = []) :
    seat.analyze.Ensures before fun report after =>
      graph.Mirrored palette document (seat.read after.rest).members after.registry report := by
  refine (attended.analyze_settles calm fresh distinct inner bare).mono ?_
  rintro report after ⟨settled, laidOut, nodes, scopes⟩
  exact Graph.mirrored_of_settled distinct settled laidOut nodes scopes

/-- Two loops lie in each other's bodies, and a third one in the body of a function. -/
def entangled : Graph where
  nodes :=
    [⟨"first", "WhileLoop", []⟩,
     ⟨"second", "WhileLoop", []⟩,
     ⟨"inner", "WhileLoop", []⟩,
     ⟨"outer", "FunctionDefinition", []⟩]
  edges :=
    [⟨"e1", "first", "second", some "loop", some "prev", []⟩,
     ⟨"e2", "second", "first", some "loop", some "prev", []⟩,
     ⟨"e3", "outer", "inner", some "body", some "prev", []⟩]

theorem analyze_mirrored_entangled :
    (entangled.nodes.map GraphNode.id).Nodup ∧
      (Graph.assignScopes .standard entangled ∅).scopeOf "first" = some "second-loop-scope" ∧
      (Graph.assignScopes .standard entangled ∅).scopeOf "second" = some "first-loop-scope" ∧
      (Graph.assignScopes .standard entangled ∅).scopeOf "inner" = some "outer-function-scope" ∧
      alone.analyze.Ensures (Workspace.fresh (.prepare entangled "graph" .standard))
        fun report after => entangled.Mirrored .standard "graph" (alone.read after.rest).members
          after.registry report :=
  ⟨by decide, by decide +kernel, by decide +kernel, by decide +kernel,
    attended_alone.analyze_mirrored trivial rfl (by decide) Palette.inner_standard rfl⟩

end AnalysisSeat

end LuauNodes
