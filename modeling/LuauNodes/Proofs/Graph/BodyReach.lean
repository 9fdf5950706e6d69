import LuauNodes.Graph.Membership
import Mathlib.Logic.Relation

/-!
# The bodies of owners

What lies in the body of an owner: the nodes that edges lead to when the first
edge leaves the owner through one of its body outputs, and no later edge leaves
the owner again or goes into the body of another node.  The search for the body
finds these nodes and no others; the number of edges bounds its visits.
-/

namespace LuauNodes.Graph

variable {palette : Palette} {graph : Graph} {owner : GraphNode}

/-- An edge that a rule admits leads from one node to another. -/
def StepsTo (graph : Graph) (admits : GraphNode → GraphEdge → Prop) (id next : String) : Prop :=
  ∃ node, graph.node? id = some node ∧ ∃ edge ∈ graph.outgoing id,
    admits node edge ∧ edge.target = next

/-- Edges lead from a body output of an owner to a node, and a rule admits all of them but the
first. -/
def ReachedFrom
    (palette : Palette)
    (graph : Graph)
    (admits : GraphNode → GraphEdge → Prop)
    (owner : GraphNode)
    (id : String) :
    Prop :=
  ∃ entry ∈ bodyTargets palette graph owner,
    Relation.ReflTransGen (StepsTo graph admits) entry id

/-- An edge that leaves another node than the owner, and not through a body output. -/
def Onward (palette : Palette) (owner node : GraphNode) (edge : GraphEdge) : Prop :=
  node.id ≠ owner.id ∧ leavesBody palette node edge = false

/-- A node other than the owner lies in the body of the owner. -/
def InBody (palette : Palette) (graph : Graph) (owner : GraphNode) (id : String) : Prop :=
  id ≠ owner.id ∧ ReachedFrom palette graph (Onward palette owner) owner id

theorem ReachedFrom.step
    {admits : GraphNode → GraphEdge → Prop}
    {id next : String}
    (reached : ReachedFrom palette graph admits owner id)
    (step : StepsTo graph admits id next) :
    ReachedFrom palette graph admits owner next := by
  obtain ⟨entry, member, path⟩ := reached
  exact ⟨entry, member, path.tail step⟩

theorem id_eq_of_node? {id : String} {node : GraphNode} (found : graph.node? id = some node) :
    node.id = id := by
  have same := List.find?_some found
  exact eq_of_beq same

theorem mem_onwardTargets_iff
    {id : String}
    {node : GraphNode}
    (found : graph.node? id = some node)
    (other : id ≠ owner.id)
    (next : String) :
    next ∈ onwardTargets palette graph node ↔ StepsTo graph (Onward palette owner) id next := by
  obtain rfl := id_eq_of_node? found
  simp only [StepsTo, onwardTargets, found, Option.some.injEq, exists_eq_left', Onward,
    List.mem_map, List.mem_filter, Bool.not_eq_true', ne_eq, other, not_false_eq_true, true_and,
    and_assoc]

/-! ## The bound on the search -/

/-- The number of edges out of nodes that were not seen yet. -/
def edgesAhead (graph : Graph) (seen : List String) : Nat :=
  graph.edges.countP fun edge => !seen.contains edge.source

theorem edgesAhead_cons
    (graph : Graph)
    {id : String}
    {seen : List String}
    (fresh : id ∉ seen) :
    edgesAhead graph (id :: seen) + (graph.outgoing id).length = edgesAhead graph seen := by
  unfold edgesAhead outgoing
  induction graph.edges with
  | nil => rfl
  | cons edge rest ih =>
      simp only [List.contains_cons, Bool.not_or] at ih ⊢
      rw [List.countP_cons, List.countP_cons, List.filter_cons]
      by_cases here : edge.source = id
      · simp only [here, beq_self_eq_true, List.contains_eq_mem, fresh] at ih ⊢
        simp only [Bool.not_true, Bool.false_and, Bool.false_eq_true, if_false, if_true,
          decide_false, Bool.not_false, List.length_cons]
        omega
      · simp only [beq_eq_false_iff_ne.mpr here, Bool.not_false, Bool.true_and, Bool.false_eq_true,
          if_false]
        omega

theorem length_onwardTargets_le
    (palette : Palette)
    {id : String}
    {node : GraphNode}
    (found : graph.node? id = some node) :
    (onwardTargets palette graph node).length ≤ (graph.outgoing id).length := by
  rw [onwardTargets, List.length_map, id_eq_of_node? found]
  exact List.length_filter_le _ _

/-- The bound of the search admits the targets of the body outputs and the edges of all other
nodes. -/
theorem room_bodyReach (palette : Palette) (graph : Graph) (owner : GraphNode) :
    (bodyTargets palette graph owner).length + edgesAhead graph [owner.id] <
      graph.edges.length + 1 := by
  have ahead : edgesAhead graph [owner.id] + (graph.outgoing owner.id).length =
      edgesAhead graph [] := edgesAhead_cons graph List.not_mem_nil
  have all : edgesAhead graph [] ≤ graph.edges.length := List.countP_le_length
  have bound : (bodyTargets palette graph owner).length ≤ (graph.outgoing owner.id).length := by
    rw [bodyTargets, List.length_map]
    exact List.length_filter_le _ _
  omega

/-! ## Runs of the search -/

/-- The search runs from a queue and the nodes that were seen to its end, and lists nodes on the
way. -/
inductive Searches (palette : Palette) (graph : Graph) :
    List String → List String → List String → Prop where
  | done (seen : List String) : Searches palette graph [] seen []
  | again
      {id : String}
      {queue seen listed : List String}
      (before : id ∈ seen)
      (goesOn : Searches palette graph queue seen listed) :
      Searches palette graph (id :: queue) seen listed
  | missing
      {id : String}
      {queue seen listed : List String}
      (fresh : id ∉ seen)
      (unknown : graph.node? id = none)
      (goesOn : Searches palette graph queue (id :: seen) listed) :
      Searches palette graph (id :: queue) seen listed
  | list
      {id : String}
      {node : GraphNode}
      {queue seen listed : List String}
      (fresh : id ∉ seen)
      (found : graph.node? id = some node)
      (goesOn : Searches palette graph (queue ++ onwardTargets palette graph node) (id :: seen)
        listed) :
      Searches palette graph (id :: queue) seen (id :: listed)

variable {queue seen listed reached : List String} {id : String}

/-- A bound above the waiting nodes and the edges ahead lets the search run to its end. -/
theorem searches_visit
    {fuel : Nat}
    (room : queue.length + edgesAhead graph seen < fuel)
    (reached : List String) :
    ∃ listed, Searches palette graph queue seen listed ∧
      visit palette graph fuel queue seen reached = reached ++ listed := by
  induction fuel generalizing queue seen reached with
  | zero => exact absurd room (Nat.not_lt_zero _)
  | succ fuel ih =>
      cases queue with
      | nil => exact ⟨[], .done seen, (List.append_nil reached).symm⟩
      | cons id queue =>
          rw [List.length_cons] at room
          rw [visit]
          by_cases before : id ∈ seen
          · rw [if_pos (List.contains_iff_mem.mpr before)]
            have enough : queue.length + edgesAhead graph seen < fuel := by omega
            obtain ⟨listed, goesOn, same⟩ := ih enough reached
            exact ⟨listed, .again before goesOn, same⟩
          rw [if_neg (mt List.contains_iff_mem.mp before)]
          have fewer := edgesAhead_cons graph before
          split
          · rename_i unknown
            have enough : queue.length + edgesAhead graph (id :: seen) < fuel := by omega
            obtain ⟨listed, goesOn, same⟩ := ih enough reached
            exact ⟨listed, .missing before unknown goesOn, same⟩
          · rename_i node found
            have few := length_onwardTargets_le palette found
            have enough : (queue ++ onwardTargets palette graph node).length +
                edgesAhead graph (id :: seen) < fuel := by
              rw [List.length_append]
              omega
            obtain ⟨listed, goesOn, same⟩ := ih enough (reached ++ [id])
            refine ⟨id :: listed, .list before found goesOn, ?_⟩
            rw [same, List.append_assoc, List.singleton_append]

/-- The search for a body runs to its end from the targets of the body outputs, with the owner
seen. -/
theorem searches_bodyReach (palette : Palette) (graph : Graph) (owner : GraphNode) :
    Searches palette graph (bodyTargets palette graph owner) [owner.id]
      (bodyReach palette graph owner) := by
  obtain ⟨listed, searches, same⟩ := searches_visit (room_bodyReach palette graph owner) []
  rw [bodyReach, same, List.nil_append]
  exact searches

/-! ## What a run finds -/

/-- What the search has done: the seen nodes are the owner and nodes that are reached from it, and
whatever a seen node leads to is seen or waits in the queue. -/
structure Visiting
    (palette : Palette)
    (graph : Graph)
    (owner : GraphNode)
    (queue seen reached : List String) :
    Prop where
  self : owner.id ∈ seen
  waiting : ∀ id ∈ queue, ReachedFrom palette graph (Onward palette owner) owner id
  sound : ∀ id ∈ seen, id ≠ owner.id → ReachedFrom palette graph (Onward palette owner) owner id
  entered : ∀ id ∈ bodyTargets palette graph owner, id ∈ seen ∨ id ∈ queue
  closed : ∀ id ∈ seen, ∀ next, StepsTo graph (Onward palette owner) id next →
    next ∈ seen ∨ next ∈ queue
  found : ∀ id, id ∈ reached ↔ id ∈ seen ∧ id ≠ owner.id ∧ (graph.node? id).isSome

theorem visiting_start (palette : Palette) (graph : Graph) (owner : GraphNode) :
    Visiting palette graph owner (bodyTargets palette graph owner) [owner.id] [] where
  self := List.mem_singleton_self _
  waiting := fun id member => ⟨id, member, .refl⟩
  sound := fun id member other => absurd (List.mem_singleton.mp member) other
  entered := fun id member => Or.inr member
  closed := by
    rintro id member next ⟨node, found, edge, _, ⟨other, _⟩, _⟩
    exact absurd ((id_eq_of_node? found).trans (List.mem_singleton.mp member)) other
  found := by
    intro id
    simp only [List.not_mem_nil, List.mem_singleton, false_iff]
    rintro ⟨same, other, _⟩
    exact other same

theorem Visiting.skip
    (visiting : Visiting palette graph owner (id :: queue) seen reached)
    (again : id ∈ seen) :
    Visiting palette graph owner queue seen reached where
  self := visiting.self
  waiting := fun other member => visiting.waiting other (List.mem_cons_of_mem _ member)
  sound := visiting.sound
  entered := by
    intro other member
    rcases visiting.entered other member with before | waits
    · exact Or.inl before
    · rcases List.mem_cons.mp waits with rfl | later
      · exact Or.inl again
      · exact Or.inr later
  closed := by
    intro other member next step
    rcases visiting.closed other member next step with before | waits
    · exact Or.inl before
    · rcases List.mem_cons.mp waits with rfl | later
      · exact Or.inl again
      · exact Or.inr later
  found := visiting.found

/-- Seeing a node puts what it leads to at the end of the queue. -/
theorem Visiting.see
    (visiting : Visiting palette graph owner (id :: queue) seen reached)
    (fresh : id ∉ seen)
    {targets later : List String}
    (leads : ∀ next, next ∈ targets ↔ StepsTo graph (Onward palette owner) id next)
    (found : ∀ other, other ∈ later ↔ other ∈ reached ∨ other = id ∧ (graph.node? id).isSome) :
    Visiting palette graph owner (queue ++ targets) (id :: seen) later := by
  have here : ReachedFrom palette graph (Onward palette owner) owner id :=
    visiting.waiting id List.mem_cons_self
  have apart : id ≠ owner.id := fun same => fresh (same ▸ visiting.self)
  have moved : ∀ other, other ∈ seen ∨ other ∈ id :: queue →
      other ∈ id :: seen ∨ other ∈ queue ++ targets := by
    rintro other (before | waits)
    · exact Or.inl (List.mem_cons_of_mem _ before)
    · rcases List.mem_cons.mp waits with rfl | later
      · exact Or.inl List.mem_cons_self
      · exact Or.inr (List.mem_append_left _ later)
  constructor
  case self => exact List.mem_cons_of_mem _ visiting.self
  case waiting =>
    intro other member
    rcases List.mem_append.mp member with waits | led
    · exact visiting.waiting other (List.mem_cons_of_mem _ waits)
    · exact here.step ((leads other).mp led)
  case sound =>
    intro other member otherThan
    rcases List.mem_cons.mp member with rfl | before
    · exact here
    · exact visiting.sound other before otherThan
  case entered => exact fun other member => moved other (visiting.entered other member)
  case closed =>
    intro other member next step
    rcases List.mem_cons.mp member with rfl | before
    · exact Or.inr (List.mem_append_right _ ((leads next).mpr step))
    · exact moved next (visiting.closed other before next step)
  case found =>
    intro other
    rw [found, visiting.found, List.mem_cons]
    constructor
    · rintro (⟨before, otherThan, known⟩ | ⟨rfl, known⟩)
      · exact ⟨Or.inr before, otherThan, known⟩
      · exact ⟨Or.inl rfl, apart, known⟩
    · rintro ⟨rfl | before, otherThan, known⟩
      · exact Or.inr ⟨rfl, known⟩
      · exact Or.inl ⟨before, otherThan, known⟩

/-- Once nothing waits, the search has found the body. -/
theorem Visiting.finished
    (visiting : Visiting palette graph owner [] seen reached)
    (id : String) :
    id ∈ reached ↔ InBody palette graph owner id ∧ (graph.node? id).isSome := by
  have seenAll : ∀ entry ∈ bodyTargets palette graph owner, ∀ id,
      Relation.ReflTransGen (StepsTo graph (Onward palette owner)) entry id → id ∈ seen := by
    intro entry enters id path
    induction path with
    | refl => exact (visiting.entered entry enters).resolve_right List.not_mem_nil
    | tail _ step ih => exact (visiting.closed _ ih _ step).resolve_right List.not_mem_nil
  rw [visiting.found]
  constructor
  · rintro ⟨member, other, known⟩
    exact ⟨⟨other, visiting.sound id member other⟩, known⟩
  · rintro ⟨⟨other, entry, enters, path⟩, known⟩
    exact ⟨seenAll entry enters id path, other, known⟩

theorem Visiting.mem_iff
    (visiting : Visiting palette graph owner queue seen reached)
    (searches : Searches palette graph queue seen listed)
    (id : String) :
    id ∈ reached ++ listed ↔ InBody palette graph owner id ∧ (graph.node? id).isSome := by
  induction searches generalizing reached with
  | done seen =>
      rw [List.append_nil]
      exact visiting.finished id
  | again before _ ih => exact ih (visiting.skip before)
  | @missing next queue seen listed fresh unknown _ ih =>
      have sees : Visiting palette graph owner (queue ++ []) (next :: seen) reached :=
        visiting.see fresh (by simp [StepsTo, unknown]) (by simp [unknown])
      rw [List.append_nil] at sees
      exact ih sees
  | @list next node queue seen listed fresh found _ ih =>
      have apart : next ≠ owner.id := fun same => fresh (same ▸ visiting.self)
      have sees : Visiting palette graph owner (queue ++ onwardTargets palette graph node)
          (next :: seen) (reached ++ [next]) :=
        visiting.see fresh (mem_onwardTargets_iff found apart) (by simp [found])
      rw [← List.singleton_append, ← List.append_assoc]
      exact ih sees

/-- The search for the body of an owner finds the nodes that lie in it. -/
theorem mem_bodyReach_iff (id : String) :
    id ∈ bodyReach palette graph owner ↔
      InBody palette graph owner id ∧ (graph.node? id).isSome := by
  have searches := searches_bodyReach palette graph owner
  exact (visiting_start palette graph owner).mem_iff searches id

end LuauNodes.Graph
