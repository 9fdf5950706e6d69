import LuauNodes.Graph.Membership
import Mathlib.Logic.Function.Iterate
import Mathlib.Logic.Relation

/-!
# Joining scopes

Nodes that only compute a value join scopes one after another.  Each step gives a
place to one node that had none, and takes the scope from a node that an edge
leads to; whatever a step keeps, all rounds keep.  Every round but the last places
a node, which bounds their number, and the last one leaves no node that could
join.
-/

namespace LuauNodes.Graph

open Relation (ReflTransGen)

variable {graph : Graph} {nodes : List GraphNode} {members next : Membership}

/-! ## One node joins -/

/-- A node without a place joins the scope of a node that one of its edges leads to. -/
def Joins (graph : Graph) (nodes : List GraphNode) (members next : Membership) : Prop :=
  ∃ node ∈ nodes, ∃ edge ∈ graph.edges, ∃ scopeId,
    members.get? node.id = none ∧ edge.source = node.id ∧
      members.scopeOf edge.target = some scopeId ∧
      next = members.insert node.id (some scopeId)

/-- The nodes of a list that have no place yet. -/
def unplaced (nodes : List GraphNode) (members : Membership) : List GraphNode :=
  nodes.filter fun node => (members.get? node.id).isNone

theorem get?_of_joins
    (joins : Joins graph nodes members next)
    {id : String}
    {place : Option String}
    (placed : members.get? id = some place) :
    next.get? id = some place := by
  obtain ⟨node, _, _, _, scopeId, fresh, _, _, rfl⟩ := joins
  have other : node.id ≠ id := by
    rintro rfl
    rw [fresh] at placed
    cases placed
  rw [OrderedMap.get?_insert, if_neg other, placed]

theorem size_of_joins (joins : Joins graph nodes members next) : next.size = members.size + 1 := by
  obtain ⟨node, _, _, _, scopeId, fresh, _, _, rfl⟩ := joins
  have lengths :=
    congrArg List.length (OrderedMap.values_insert_of_get?_eq_none fresh (some scopeId))
  simpa [OrderedMap.values, OrderedMap.size] using lengths

theorem length_unplaced_of_joins (joins : Joins graph nodes members next) :
    (unplaced nodes next).length < (unplaced nodes members).length := by
  have fewer : unplaced nodes next =
      (unplaced nodes members).filter fun node => (next.get? node.id).isNone := by
    rw [unplaced, unplaced, List.filter_filter]
    refine List.filter_congr fun node _ => ?_
    cases placed : members.get? node.id with
    | none => simp
    | some place => simp [get?_of_joins joins placed]
  rw [fewer, List.length_filter_lt_length_iff_exists]
  obtain ⟨node, member, _, _, scopeId, fresh, _, _, rfl⟩ := joins
  exact ⟨node, List.mem_filter.mpr ⟨member, by simp [fresh]⟩, by simp⟩

/-- Once nodes have joined there are more places than before, and fewer nodes without one. -/
theorem eq_or_lt_of_joins (path : ReflTransGen (Joins graph nodes) members next) :
    next = members ∨
      members.size < next.size ∧
        (unplaced nodes next).length < (unplaced nodes members).length := by
  induction path with
  | refl => exact Or.inl rfl
  | tail _ joins ih =>
      have larger := size_of_joins joins
      have fewer := length_unplaced_of_joins joins
      rcases ih with rfl | ⟨grown, shrunk⟩
      · exact Or.inr ⟨by omega, fewer⟩
      · exact Or.inr ⟨by omega, by omega⟩

/-- Nobody joins on the way from a state back to itself. -/
theorem eq_of_joins_of_joins
    (path : ReflTransGen (Joins graph nodes) members next)
    (back : ReflTransGen (Joins graph nodes) next members) :
    next = members := by
  rcases eq_or_lt_of_joins path with same | ⟨grown, -⟩
  · exact same
  · rcases eq_or_lt_of_joins back with same | ⟨shrunk, -⟩
    · exact same.symm
    · omega

/-! ## Rounds -/

theorem joins_inherit
    (graph : Graph)
    {node : GraphNode}
    (member : node ∈ nodes)
    (members : Membership) :
    ReflTransGen (Joins graph nodes) members (inherit graph members node) := by
  unfold inherit
  split
  · exact .refl
  · rename_i absent
    split
    · rename_i scopeId joined
      obtain ⟨edge, leaves, sits⟩ := List.exists_of_findSome?_eq_some joined
      obtain ⟨among, source⟩ := List.mem_filter.mp leaves
      have fresh : members.get? node.id = none :=
        Option.not_isSome_iff_eq_none.mp absent
      exact .single ⟨node, member, edge, among, scopeId, fresh, eq_of_beq source, sits, rfl⟩
    · exact .refl

theorem joins_foldl
    (graph : Graph)
    {visited : List GraphNode}
    (subset : visited ⊆ nodes)
    (members : Membership) :
    ReflTransGen (Joins graph nodes) members (visited.foldl (inherit graph) members) := by
  induction visited generalizing members with
  | nil => exact .refl
  | cons node rest ih =>
      obtain ⟨member, others⟩ := List.cons_subset.mp subset
      exact (joins_inherit graph member members).trans (ih others _)

theorem joins_inheritRound (graph : Graph) (nodes : List GraphNode) (members : Membership) :
    ReflTransGen (Joins graph nodes) members (inheritRound graph nodes members) :=
  joins_foldl graph (List.Subset.refl nodes) members

theorem joins_inheritRounds
    (graph : Graph)
    (nodes : List GraphNode)
    (fuel : Nat)
    (members : Membership) :
    ReflTransGen (Joins graph nodes) members (inheritRounds graph nodes fuel members) := by
  induction fuel generalizing members with
  | zero => exact .refl
  | succ fuel ih =>
      rw [inheritRounds]
      split
      · exact .refl
      · exact (joins_inheritRound graph nodes members).trans (ih _)

/-- A round that places no node leaves none that could join. -/
theorem joinedScope?_of_inheritRound
    (still : inheritRound graph nodes members = members)
    {node : GraphNode}
    (member : node ∈ nodes)
    (fresh : members.get? node.id = none) :
    joinedScope? graph members node.id = none := by
  obtain ⟨front, back, rfl⟩ := List.append_of_mem member
  -- The round passes by the node, so that nothing has changed when it comes there.
  have toNode := joins_foldl graph (List.subset_append_left front (node :: back)) members
  have atNode := joins_inherit graph member (front.foldl (inherit graph) members)
  have rest : back ⊆ front ++ node :: back := fun _ later =>
    List.mem_append_right front (List.mem_cons_of_mem node later)
  have fromNode := joins_foldl graph rest
    (inherit graph (front.foldl (inherit graph) members) node)
  rw [inheritRound, List.foldl_append, List.foldl_cons] at still
  rw [still] at fromNode
  have unchanged := eq_of_joins_of_joins toNode (atNode.trans fromNode)
  rw [unchanged] at atNode fromNode
  have unmoved := eq_of_joins_of_joins atNode fromNode
  cases joined : joinedScope? graph members node.id with
  | none => rfl
  | some scopeId =>
      have placed := congrArg (fun state : Membership => state.get? node.id) unmoved
      simp [inherit, OrderedMap.contains, fresh, joined] at placed

/-! ## The end of the rounds -/

/-- Rounds go on until one of them places no node; every round before places one. -/
structure Ends
    (graph : Graph)
    (nodes : List GraphNode)
    (before after : Membership)
    (rounds : Nat) :
    Prop where
  reached : after = (inheritRound graph nodes)^[rounds] before
  places : ∀ earlier < rounds,
    (inheritRound graph nodes)^[earlier + 1] before ≠ (inheritRound graph nodes)^[earlier] before
  still : inheritRound graph nodes after = after

theorem ends_inheritRounds
    (graph : Graph)
    {fuel : Nat}
    (room : (unplaced nodes members).length < fuel) :
    ∃ rounds ≤ (unplaced nodes members).length,
      Ends graph nodes members (inheritRounds graph nodes fuel members) rounds := by
  induction fuel generalizing members with
  | zero => exact absurd room (Nat.not_lt_zero _)
  | succ fuel ih =>
      rw [inheritRounds]
      rcases eq_or_lt_of_joins (joins_inheritRound graph nodes members) with
        still | ⟨grown, shrunk⟩
      · rw [still, if_pos (beq_self_eq_true _)]
        exact ⟨0, Nat.zero_le _, rfl, fun _ early => absurd early (Nat.not_lt_zero _), still⟩
      · rw [if_neg (mt eq_of_beq (Nat.ne_of_gt grown))]
        have fewer : (unplaced nodes (inheritRound graph nodes members)).length < fuel := by omega
        obtain ⟨rounds, within, ends⟩ := ih fewer
        refine ⟨rounds + 1, by omega, ends.reached, fun earlier early => ?_, ends.still⟩
        cases earlier with
        | zero =>
            intro same
            rw [Function.iterate_succ_apply', Function.iterate_zero_apply] at same
            rw [same] at grown
            exact Nat.lt_irrefl _ grown
        | succ earlier =>
            exact ends.places earlier (Nat.lt_of_succ_lt_succ early)

end LuauNodes.Graph
