import LuauNodes.Proofs.Graph.BodyReach

/-!
# The search for a body

The search takes node after node from a queue until the queue is empty.  It ends
on every graph, since the edges of a node are queued only once, and what it
lists is the body of the owner: each node once, and exactly the nodes that a path
of edges leads to that begins at a body output of the owner and enters no other
body.
-/

namespace LuauNodes.Graph

variable {palette : Palette} {graph : Graph} {owner : GraphNode}

/-! ## Paths into a body -/

/-- The edge leaves a node through an output that leads into the node's body. -/
def EntersBody (palette : Palette) (node : GraphNode) (edge : GraphEdge) : Prop :=
  ∃ kind handle, palette.get? node.kind = some kind ∧ edge.sourceHandle = some handle ∧
    handle ≠ "" ∧ kind.isBodyOutput handle = true

/-- Edges lead from an owner into its body and on to a node.  Every node on the way exists, is
not the owner, and is not left for its own body. -/
inductive LeadsInto (palette : Palette) (graph : Graph) (owner : GraphNode) : String → Prop where
  | enter
      {edge : GraphEdge}
      (among : edge ∈ graph.edges)
      (leaves : edge.source = owner.id)
      (enters : EntersBody palette owner edge) :
      LeadsInto palette graph owner edge.target
  | onward
      {id : String}
      {node : GraphNode}
      {edge : GraphEdge}
      (path : LeadsInto palette graph owner id)
      (found : graph.node? id = some node)
      (other : id ≠ owner.id)
      (among : edge ∈ graph.edges)
      (leaves : edge.source = id)
      (passes : ¬ EntersBody palette node edge) :
      LeadsInto palette graph owner edge.target

theorem leavesBody_iff (node : GraphNode) (edge : GraphEdge) :
    leavesBody palette node edge = true ↔ EntersBody palette node edge := by
  unfold leavesBody EntersBody
  cases palette.get? node.kind <;> cases edge.sourceHandle <;> simp

theorem mem_outgoing_iff (id : String) (edge : GraphEdge) :
    edge ∈ graph.outgoing id ↔ edge ∈ graph.edges ∧ edge.source = id := by
  rw [outgoing, List.mem_filter, beq_iff_eq]

theorem mem_bodyTargets_iff (id : String) :
    id ∈ bodyTargets palette graph owner ↔
      ∃ edge ∈ graph.edges, edge.source = owner.id ∧ EntersBody palette owner edge ∧
        edge.target = id := by
  simp only [bodyTargets, List.mem_map, List.mem_filter, mem_outgoing_iff, leavesBody_iff,
    and_assoc]

theorem stepsTo_iff (id next : String) :
    StepsTo graph (Onward palette owner) id next ↔
      ∃ node, graph.node? id = some node ∧ id ≠ owner.id ∧ ∃ edge ∈ graph.edges,
        edge.source = id ∧ ¬ EntersBody palette node edge ∧ edge.target = next := by
  unfold StepsTo Onward
  refine exists_congr fun node => and_congr_right fun found => ?_
  rw [id_eq_of_node? found]
  simp only [mem_outgoing_iff, ← leavesBody_iff, Bool.not_eq_true, and_assoc]
  constructor
  · rintro ⟨edge, among, leaves, other, rest⟩
    exact ⟨other, edge, among, leaves, rest⟩
  · rintro ⟨other, edge, among, leaves, rest⟩
    exact ⟨edge, among, leaves, other, rest⟩

theorem leadsInto_iff (id : String) :
    LeadsInto palette graph owner id ↔
      ReachedFrom palette graph (Onward palette owner) owner id := by
  constructor
  · intro leads
    induction leads with
    | enter among leaves enters =>
        exact ⟨_, (mem_bodyTargets_iff _).mpr ⟨_, among, leaves, enters, rfl⟩, .refl⟩
    | onward _ found other among leaves passes ih =>
        exact ih.step ((stepsTo_iff _ _).mpr ⟨_, found, other, _, among, leaves, passes, rfl⟩)
  · rintro ⟨entry, member, path⟩
    induction path with
    | refl =>
        obtain ⟨edge, among, leaves, enters, rfl⟩ := (mem_bodyTargets_iff _).mp member
        exact .enter among leaves enters
    | tail _ step ih =>
        obtain ⟨node, found, other, edge, among, leaves, passes, rfl⟩ := (stepsTo_iff _ _).mp step
        exact .onward ih found other among leaves passes

theorem isSome_node?_iff (id : String) :
    (graph.node? id).isSome ↔ ∃ node ∈ graph.nodes, node.id = id := by
  rw [node?, List.find?_isSome]
  simp only [beq_iff_eq]

/-! ## The search -/

/-- What the search lists was not seen before, and is listed once. -/
theorem Searches.nodup
    {queue seen listed : List String}
    (searches : Searches palette graph queue seen listed) :
    listed.Nodup ∧ ∀ id ∈ listed, id ∉ seen := by
  induction searches with
  | done seen => exact ⟨List.nodup_nil, fun id member => (List.not_mem_nil member).elim⟩
  | again before goesOn ih => exact ih
  | missing fresh unknown goesOn ih =>
      exact ⟨ih.1, fun id member before => ih.2 id member (List.mem_cons_of_mem _ before)⟩
  | list fresh found goesOn ih =>
      refine ⟨List.nodup_cons.mpr ⟨fun again => ih.2 _ again List.mem_cons_self, ih.1⟩, ?_⟩
      intro other member before
      rcases List.mem_cons.mp member with rfl | later
      · exact fresh before
      · exact ih.2 other later (List.mem_cons_of_mem _ before)

/-- The search for the body of an owner comes to its end, and lists each node once and the owner
never: exactly the nodes of the graph that edges lead to from a body output of the owner. -/
theorem bodyReach_exact (palette : Palette) (graph : Graph) (owner : GraphNode) :
    Searches palette graph (bodyTargets palette graph owner) [owner.id]
        (bodyReach palette graph owner) ∧
      (bodyReach palette graph owner).Nodup ∧
      owner.id ∉ bodyReach palette graph owner ∧
      ∀ id, id ∈ bodyReach palette graph owner ↔
        (∃ node ∈ graph.nodes, node.id = id) ∧ id ≠ owner.id ∧
          LeadsInto palette graph owner id := by
  have searches := searches_bodyReach palette graph owner
  obtain ⟨once, fresh⟩ := searches.nodup
  refine ⟨searches, once, fun listed => fresh _ listed (List.mem_singleton_self _), fun id => ?_⟩
  rw [mem_bodyReach_iff, isSome_node?_iff, InBody, leadsInto_iff, and_comm]

end LuauNodes.Graph
