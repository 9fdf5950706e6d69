import LuauNodes.Proofs.Graph.Joining
import LuauNodes.Proofs.Graph.Nesting
import Mathlib.Data.List.Nodup

/-!
# Where scopes come from

A node is assigned the scope of the first owner whose body has it.  A node that
only computes a value and lies in no body may take a scope from the nodes that it
feeds, so that every assigned scope is still the scope of an owner.
-/

namespace LuauNodes

theorem Membership.scopeOf_insert
    (members : Membership)
    (id : String)
    (scopeId : Option String)
    (other : String) :
    Membership.scopeOf (members.insert id scopeId) other =
      if id = other then scopeId else members.scopeOf other := by
  rw [Membership.scopeOf, OrderedMap.get?_insert]
  split <;> rfl

namespace Graph

variable {palette : Palette} {graph : Graph} {members : Membership}

theorem mem_owners_iff (owner : GraphNode × ScopeKind) :
    owner ∈ owners palette graph ↔
      owner.1 ∈ graph.nodes ∧ ownedKind? palette owner.1 = some owner.2 := by
  rw [owners, List.mem_filterMap]
  constructor
  · rintro ⟨node, member, found⟩
    obtain ⟨kind, owned, rfl⟩ := Option.map_eq_some_iff.mp found
    exact ⟨member, owned⟩
  · rintro ⟨member, owned⟩
    exact ⟨owner.1, member, by rw [owned]; rfl⟩

theorem distinctOwners_owners
    (distinct : (graph.nodes.map GraphNode.id).Nodup) :
    DistinctOwners (owners palette graph) := by
  have sublist : ∀ nodes : List GraphNode,
      ((nodes.filterMap fun node => (ownedKind? palette node).map fun kind => (node, kind)).map
        fun owner => owner.1.id).Sublist (nodes.map GraphNode.id) := by
    intro nodes
    induction nodes with
    | nil => exact .slnil
    | cons node rest ih =>
        rw [List.filterMap_cons]
        cases ownedKind? palette node with
        | none => exact ih.cons node.id
        | some kind => exact ih.cons_cons node.id
  exact distinct.sublist (sublist graph.nodes)

theorem getD_ownedScopes
    {owners : List (GraphNode × ScopeKind)}
    (distinct : DistinctOwners owners)
    {owner : GraphNode × ScopeKind}
    (member : owner ∈ owners)
    (default : String) :
    (ownedScopes owners).getD owner.1.id default = scopeIdFor owner.1.id owner.2 := by
  have found : (ownedScopes owners).get? owner.1.id = some (scopeIdFor owner.1.id owner.2) := by
    refine (OrderedMap.get?_ofList_eq_some_iff ?_ _ _).mpr (List.mem_map_of_mem member)
    rw [List.map_map]
    exact distinct
  rw [OrderedMap.getD, found]
  rfl

/-! ## Bodies -/

theorem get?_placeAll
    (scopeId : String)
    (members : Membership)
    (nodeIds : List String)
    (id : String) :
    (placeAll scopeId members nodeIds).get? id =
      (members.get? id).or (if id ∈ nodeIds then some (some scopeId) else none) := by
  unfold placeAll
  induction nodeIds generalizing members with
  | nil => simp
  | cons first rest ih =>
      rw [List.foldl_cons, ih]
      by_cases here : first = id
      · subst here
        rw [if_pos List.mem_cons_self, OrderedMap.contains]
        cases placed : members.get? first with
        | none => simp [OrderedMap.get?_insert]
        | some place => simp [placed]
      · have same : id ∈ first :: rest ↔ id ∈ rest := by
          rw [List.mem_cons, or_iff_right (Ne.symm here)]
        simp only [same]
        split
        · rfl
        · rw [OrderedMap.get?_insert, if_neg here]

/-- Of several owners whose bodies have a node, the first places it. -/
theorem get?_placeBodies
    (distinct : DistinctOwners (owners palette graph))
    (members : Membership)
    (id : String) :
    (placeBodies palette graph (owners palette graph) members).get? id =
      (members.get? id).or
        (((owners palette graph).find? fun owner =>
          decide (id ∈ bodyReach palette graph owner.1)).map
            fun owner => some (scopeIdFor owner.1.id owner.2)) := by
  have goesOn : ∀ rest ⊆ owners palette graph, ∀ members : Membership,
      (rest.foldl
          (fun rest owner =>
            placeAll
              ((ownedScopes (owners palette graph)).getD owner.1.id
                (scopeIdFor owner.1.id owner.2))
              rest (bodyReach palette graph owner.1))
          members).get? id =
        (members.get? id).or
          ((rest.find? fun owner => decide (id ∈ bodyReach palette graph owner.1)).map
            fun owner => some (scopeIdFor owner.1.id owner.2)) := by
    intro rest
    induction rest with
    | nil => simp
    | cons owner rest ih =>
        intro subset members
        obtain ⟨member, others⟩ := List.cons_subset.mp subset
        rw [List.foldl_cons, ih others, get?_placeAll, getD_ownedScopes distinct member,
          Option.or_assoc, List.find?_cons]
        by_cases here : id ∈ bodyReach palette graph owner.1
        · rw [if_pos here, decide_eq_true here]
          rfl
        · rw [if_neg here, decide_eq_false here]
          rfl
  exact goesOn _ (List.Subset.refl _) members

/-! ## Nodes that only compute a value -/

/-- Only the nodes of the list join scopes. -/
theorem get?_inheritRounds_of_ne
    {nodes : List GraphNode}
    {id : String}
    (others : ∀ node ∈ nodes, node.id ≠ id)
    (fuel : Nat)
    (members : Membership) :
    (inheritRounds graph nodes fuel members).get? id = members.get? id := by
  have path := joins_inheritRounds graph nodes fuel members
  generalize inheritRounds graph nodes fuel members = after at path ⊢
  induction path with
  | refl => rfl
  | tail _ joins ih =>
      obtain ⟨node, member, _, _, scopeId, _, _, _, rfl⟩ := joins
      rw [OrderedMap.get?_insert, if_neg (others node member), ih]

theorem Housed.inheritRounds
    (housed : Housed (owners palette graph) members)
    (nodes : List GraphNode)
    (fuel : Nat) :
    Housed (owners palette graph) (inheritRounds graph nodes fuel members) := by
  have path := joins_inheritRounds graph nodes fuel members
  generalize Graph.inheritRounds graph nodes fuel members = after at path ⊢
  induction path with
  | refl => exact housed
  | tail _ joins ih =>
      obtain ⟨node, _, edge, _, scopeId, _, _, scope, rfl⟩ := joins
      intro other otherScope placed
      rw [Membership.scopeOf_insert] at placed
      split at placed
      · cases placed
        exact ih edge.target scopeId scope
      · exact ih other otherScope placed

/-! ## Assigned scopes -/

theorem housed_assignScopes
    (distinct : (graph.nodes.map GraphNode.id).Nodup) :
    Housed (owners palette graph) (assignScopes palette graph ∅) := by
  refine Housed.inheritRounds ?_ _ _
  intro id scopeId scope
  rw [Membership.scopeOf, get?_placeBodies (distinctOwners_owners distinct)] at scope
  cases first : (owners palette graph).find? fun owner =>
      decide (id ∈ bodyReach palette graph owner.1) with
  | none =>
      rw [first] at scope
      cases scope
  | some owner =>
      rw [first] at scope
      cases scope
      exact ⟨owner, List.mem_of_find?_eq_some first, rfl⟩

/-- A node that does more than compute a value is assigned to the first owner whose body has it. -/
theorem scopeOf_assignScopes
    (distinct : (graph.nodes.map GraphNode.id).Nodup)
    {node : GraphNode}
    (member : node ∈ graph.nodes)
    (acts : isPure palette node = false) :
    (assignScopes palette graph ∅).scopeOf node.id =
      ((owners palette graph).find? fun owner =>
        decide (node.id ∈ bodyReach palette graph owner.1)).map
          fun owner => scopeIdFor owner.1.id owner.2 := by
  have others : ∀ other ∈ pureNodes palette graph, other.id ≠ node.id := by
    intro other computes same
    obtain ⟨among, isPure⟩ := List.mem_filter.mp computes
    obtain rfl := List.inj_on_of_nodup_map distinct among member same
    rw [acts] at isPure
    cases isPure
  rw [Membership.scopeOf, assignScopes, inheritAll, get?_inheritRounds_of_ne others,
    get?_placeBodies (distinctOwners_owners distinct)]
  cases (owners palette graph).find? fun owner =>
      decide (node.id ∈ bodyReach palette graph owner.1) with
  | none => rfl
  | some owner => rfl

end Graph

end LuauNodes
