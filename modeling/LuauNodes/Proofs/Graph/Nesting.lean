import LuauNodes.Graph.Membership
import Mathlib.Data.List.Perm.Subperm
import Mathlib.Logic.Relation

/-!
# Nesting of owners

Owners that lie in each other's scopes.  Going from a node to the owner of its
scope, and on from there, either comes to an owner that lies in no scope or runs
into a cycle.  In the first case every owner on the way is one deeper than the
next, so that sorting by depth puts it behind: whoever works through the owners
in that order finds the owners around them done.
-/

namespace LuauNodes

/-- Scopes of different owners, or of different kinds, have different identifiers. -/
theorem scopeIdFor_injective
    {nodeId other : String}
    {kind otherKind : ScopeKind}
    (same : scopeIdFor nodeId kind = scopeIdFor other otherKind) :
    nodeId = other ∧ kind = otherKind := by
  have letters := congrArg String.toList same
  simp only [scopeIdFor, String.toList_append, List.append_cancel_right_eq] at letters
  -- The tags of the kinds end in different letters.
  have last := congrArg List.getLast? letters
  have kinds : kind = otherKind := by
    cases kind <;> cases otherKind <;> first | rfl | (simp [ScopeKind.tag] at last)
  subst kinds
  rw [List.append_cancel_right_eq, List.append_cancel_right_eq] at letters
  exact ⟨String.toList_inj.mp letters, rfl⟩

namespace Graph

variable {owners : List (GraphNode × ScopeKind)} {members : Membership}

/-- No two owners have one identifier. -/
def DistinctOwners (owners : List (GraphNode × ScopeKind)) : Prop :=
  (owners.map fun owner => owner.1.id).Nodup

/-- A node sits in the scope of an owner. -/
def SitsIn (owners : List (GraphNode × ScopeKind)) (members : Membership) (inner outer : String) :
    Prop :=
  ∃ owner ∈ owners, owner.1.id = outer ∧
    members.scopeOf inner = some (scopeIdFor owner.1.id owner.2)

/-- Every scope that a node sits in is the scope of an owner. -/
def Housed (owners : List (GraphNode × ScopeKind)) (members : Membership) : Prop :=
  ∀ id scopeId, members.scopeOf id = some scopeId →
    ∃ owner ∈ owners, scopeId = scopeIdFor owner.1.id owner.2

/-- The owners around a node, from the inside out, up to one that sits in no scope. -/
inductive OwnerChain (owners : List (GraphNode × ScopeKind)) (members : Membership) :
    String → List String → Prop where
  | top
      {id : String}
      (outermost : members.scopeOf id = none) :
      OwnerChain owners members id []
  | under
      {id outer : String}
      {rest : List String}
      (sits : SitsIn owners members id outer)
      (chain : OwnerChain owners members outer rest) :
      OwnerChain owners members id (outer :: rest)

/-- Going from a node to the owner of its scope, and on from there, comes back to an owner. -/
def RunsIntoCycle
    (owners : List (GraphNode × ScopeKind))
    (members : Membership)
    (id : String) :
    Prop :=
  ∃ owner, Relation.ReflTransGen (SitsIn owners members) id owner ∧
    Relation.TransGen (SitsIn owners members) owner owner

theorem SitsIn.exists_scope
    {id outer : String}
    (sits : SitsIn owners members id outer) :
    ∃ scopeId, members.scopeOf id = some scopeId := by
  obtain ⟨owner, -, -, scope⟩ := sits
  exact ⟨_, scope⟩

theorem SitsIn.unique
    {id outer other : String}
    (sits : SitsIn owners members id outer)
    (again : SitsIn owners members id other) :
    outer = other := by
  obtain ⟨owner, -, rfl, scope⟩ := sits
  obtain ⟨otherOwner, -, rfl, otherScope⟩ := again
  rw [scope, Option.some.injEq] at otherScope
  exact (scopeIdFor_injective otherScope).1

theorem SitsIn.mem
    {id outer : String}
    (sits : SitsIn owners members id outer) :
    outer ∈ owners.map fun owner => owner.1.id := by
  obtain ⟨owner, member, rfl, -⟩ := sits
  exact List.mem_map_of_mem member

namespace OwnerChain

variable {id : String} {outer : List String}

theorem unique
    {other : List String}
    (chain : OwnerChain owners members id outer)
    (again : OwnerChain owners members id other) :
    outer = other := by
  induction chain generalizing other with
  | top outermost =>
      cases again with
      | top _ => rfl
      | under sits _ =>
          obtain ⟨_, scope⟩ := sits.exists_scope
          rw [outermost] at scope
          cases scope
  | under sits chain ih =>
      cases again with
      | top outermost =>
          obtain ⟨_, scope⟩ := sits.exists_scope
          rw [outermost] at scope
          cases scope
      | under sitsAgain rest =>
          obtain rfl := sits.unique sitsAgain
          rw [ih rest]

/-- From every owner on a chain a shorter chain goes on. -/
theorem of_mem
    (chain : OwnerChain owners members id outer)
    {member : String}
    (inChain : member ∈ outer) :
    ∃ rest, OwnerChain owners members member rest ∧ rest.length < outer.length := by
  induction chain with
  | top _ => cases inChain
  | @under id parent outer sits chain ih =>
      rcases List.mem_cons.mp inChain with rfl | further
      · exact ⟨outer, chain, Nat.lt_succ_self _⟩
      · obtain ⟨rest, restChain, shorter⟩ := ih further
        exact ⟨rest, restChain, Nat.lt_succ_of_lt shorter⟩

theorem not_mem_self (chain : OwnerChain owners members id outer) : id ∉ outer := by
  intro inChain
  obtain ⟨rest, restChain, shorter⟩ := chain.of_mem inChain
  rw [chain.unique restChain] at shorter
  exact Nat.lt_irrefl _ shorter

theorem nodup (chain : OwnerChain owners members id outer) : outer.Nodup := by
  induction chain with
  | top _ => exact List.nodup_nil
  | under _ chain ih => exact List.nodup_cons.mpr ⟨chain.not_mem_self, ih⟩

theorem subset (chain : OwnerChain owners members id outer) :
    outer ⊆ owners.map fun owner => owner.1.id := by
  induction chain with
  | top _ => exact List.nil_subset _
  | under sits _ ih => exact List.cons_subset.mpr ⟨sits.mem, ih⟩

theorem length_le (chain : OwnerChain owners members id outer) : outer.length ≤ owners.length := by
  have bound := (List.subperm_of_subset chain.nodup chain.subset).length_le
  rwa [List.length_map] at bound

end OwnerChain

/-! ## Chains that end, and chains that do not -/

theorem RunsIntoCycle.head
    {id outer : String}
    (sits : SitsIn owners members id outer)
    (cycle : RunsIntoCycle owners members outer) :
    RunsIntoCycle owners members id := by
  obtain ⟨owner, leads, back⟩ := cycle
  exact ⟨owner, .head sits leads, back⟩

/-- Where every scope has an owner, going outwards ends or runs into a cycle. -/
theorem Housed.ownerChain_or_cycle (housed : Housed owners members) (id : String) :
    (∃ outer, OwnerChain owners members id outer) ∨ RunsIntoCycle owners members id := by
  -- The owners that were passed already all lead to where the walk is now; there is no room for
  -- more of them than there are owners.
  have walk : ∀ room passed id, owners.length < room + passed.length → passed.Nodup →
      (passed ⊆ owners.map fun owner => owner.1.id) →
      (∀ owner ∈ passed, Relation.ReflTransGen (SitsIn owners members) owner id) →
      (∃ outer, OwnerChain owners members id outer) ∨ RunsIntoCycle owners members id := by
    intro room
    induction room with
    | zero =>
        intro passed id full nodup subset _
        have bound := (List.subperm_of_subset nodup subset).length_le
        rw [List.length_map] at bound
        omega
    | succ room ih =>
        intro passed id full nodup subset leads
        cases scope : members.scopeOf id with
        | none => exact Or.inl ⟨[], .top scope⟩
        | some scopeId =>
            obtain ⟨owner, member, rfl⟩ := housed id scopeId scope
            have sits : SitsIn owners members id owner.1.id := ⟨owner, member, rfl, scope⟩
            by_cases again : owner.1.id ∈ passed
            · exact Or.inr ⟨owner.1.id, .single sits, .tail' (leads _ again) sits⟩
            · have leadsStill : ∀ other ∈ owner.1.id :: passed,
                  Relation.ReflTransGen (SitsIn owners members) other owner.1.id := by
                intro other among
                rcases List.mem_cons.mp among with rfl | before
                · exact .refl
                · exact (leads other before).tail sits
              have goesOn := ih (owner.1.id :: passed) owner.1.id
                (by simp only [List.length_cons]; omega)
                (List.nodup_cons.mpr ⟨again, nodup⟩)
                (List.cons_subset.mpr ⟨sits.mem, subset⟩) leadsStill
              rcases goesOn with ⟨outer, chain⟩ | cycle
              · exact Or.inl ⟨_, .under sits chain⟩
              · exact Or.inr (cycle.head sits)
  exact walk (owners.length + 1) [] id (by simp) List.nodup_nil (List.nil_subset _) (by simp)

/-! ## Depths -/

theorem entries_ownedScopes (distinct : DistinctOwners owners) :
    (ownedScopes owners).entries =
      owners.map fun owner => (owner.1.id, scopeIdFor owner.1.id owner.2) := by
  refine OrderedMap.entries_ofList ?_
  rw [List.map_map]
  exact distinct

/-- Looking for the owner of a scope finds the owner. -/
theorem find?_ownedScopes
    (distinct : DistinctOwners owners)
    {id outer scopeId : String}
    (sits : SitsIn owners members id outer)
    (scope : members.scopeOf id = some scopeId) :
    ∃ found, (ownedScopes owners).entries.find? (fun entry => entry.2 == scopeId) =
      some (outer, found) := by
  obtain ⟨owner, member, rfl, same⟩ := sits
  rw [scope, Option.some.injEq] at same
  subst same
  rw [entries_ownedScopes distinct]
  cases found : (owners.map fun owner => (owner.1.id, scopeIdFor owner.1.id owner.2)).find?
      fun entry => entry.2 == scopeIdFor owner.1.id owner.2 with
  | none =>
      have missing := List.find?_eq_none.mp found _ (List.mem_map_of_mem member)
      simp at missing
  | some entry =>
      have matched : entry.2 = scopeIdFor owner.1.id owner.2 := by simpa using List.find?_some found
      obtain ⟨other, _, rfl⟩ := List.mem_map.mp (List.mem_of_find?_eq_some found)
      rw [(scopeIdFor_injective matched).1]
      exact ⟨_, rfl⟩

/-- The depth counts the owners on a chain, if the bound admits their number. -/
theorem ownerDepth_eq
    (distinct : DistinctOwners owners)
    {id : String}
    {outer seen : List String}
    {fuel : Nat}
    (chain : OwnerChain owners members id outer)
    (room : outer.length ≤ fuel)
    (unseen : ∀ owner ∈ outer, owner ∉ seen) :
    ownerDepth (ownedScopes owners) members fuel seen (members.scopeOf id) = outer.length := by
  induction chain generalizing fuel seen with
  | top outermost =>
      rw [outermost]
      cases fuel <;> rfl
  | @under id outer rest sits chain ih =>
      obtain ⟨scopeId, scope⟩ := sits.exists_scope
      obtain ⟨found, finds⟩ := find?_ownedScopes distinct sits scope
      cases fuel with
      | zero => simp at room
      | succ fuel =>
          have fresh : seen.contains outer = false := by
            simpa using unseen outer List.mem_cons_self
          rw [scope, ownerDepth, finds]
          simp only [fresh, Bool.false_eq_true, if_false, List.length_cons,
            Nat.add_right_cancel_iff]
          refine ih (Nat.le_of_succ_le_succ room) ?_
          intro other member
          rw [List.mem_cons, not_or]
          refine ⟨?_, unseen other (List.mem_cons_of_mem _ member)⟩
          rintro rfl
          exact chain.not_mem_self member

theorem depthOf_eq
    (distinct : DistinctOwners owners)
    {id : String}
    {outer : List String}
    (chain : OwnerChain owners members id outer) :
    depthOf owners members id = outer.length :=
  ownerDepth_eq distinct chain (Nat.le_succ_of_le chain.length_le) (by simp)

/-! ## The order of owners -/

@[simp]
theorem mem_outermostFirst (owner : GraphNode × ScopeKind) :
    owner ∈ outermostFirst owners members ↔ owner ∈ owners :=
  List.mem_mergeSort

theorem DistinctOwners.outermostFirst
    (distinct : DistinctOwners owners)
    (members : Membership) :
    DistinctOwners (outermostFirst owners members) :=
  ((List.mergeSort_perm owners _).map _).nodup_iff.mpr distinct

theorem pairwise_outermostFirst
    (owners : List (GraphNode × ScopeKind))
    (members : Membership) :
    (outermostFirst owners members).Pairwise fun left right =>
      depthOf owners members left.1.id ≤ depthOf owners members right.1.id := by
  let noDeeper (left right : GraphNode × ScopeKind) : Bool :=
    depthOf owners members left.1.id ≤ depthOf owners members right.1.id
  have sorted : (owners.mergeSort noDeeper).Pairwise fun left right =>
      noDeeper left right = true := by
    apply List.pairwise_mergeSort
    · intro left middle right first second
      rw [decide_eq_true_eq] at first second ⊢
      exact Nat.le_trans first second
    · intro left right
      rw [Bool.or_eq_true, decide_eq_true_eq, decide_eq_true_eq]
      exact Nat.le_total _ _
  exact sorted.imp fun ordered => of_decide_eq_true ordered

/-- The owner of the scope that an owner sits in comes before it, if its chain ends. -/
theorem exists_before_of_chain
    (distinct : DistinctOwners owners)
    {before after : List (GraphNode × ScopeKind)}
    {inner : GraphNode × ScopeKind}
    {outside : List String}
    {scopeId : String}
    (order : outermostFirst owners members = before ++ inner :: after)
    (chain : OwnerChain owners members inner.1.id outside)
    (scope : members.scopeOf inner.1.id = some scopeId) :
    ∃ owner ∈ before, scopeId = scopeIdFor owner.1.id owner.2 := by
  cases chain with
  | top outermost =>
      rw [outermost] at scope
      cases scope
  | @under _ outer rest sits chain =>
      obtain ⟨owner, member, rfl, sitsAt⟩ := sits
      rw [scope, Option.some.injEq] at sitsAt
      have deeper : depthOf owners members owner.1.id < depthOf owners members inner.1.id := by
        have sitsStill : SitsIn owners members inner.1.id owner.1.id :=
          ⟨owner, member, rfl, sitsAt ▸ scope⟩
        rw [depthOf_eq distinct chain, depthOf_eq distinct (.under sitsStill chain)]
        exact Nat.lt_succ_self _
      have listed : owner ∈ before ++ inner :: after :=
        order ▸ (mem_outermostFirst owner).mpr member
      have sorted := order ▸ pairwise_outermostFirst owners members
      rcases List.mem_append.mp listed with early | late
      · exact ⟨owner, early, sitsAt⟩
      · -- An owner that comes later is no less deep.
        refine absurd deeper (Nat.not_lt.mpr ?_)
        rcases List.mem_cons.mp late with rfl | later
        · exact Nat.le_refl _
        · exact List.rel_of_pairwise_cons (List.pairwise_append.mp sorted).2.1 later

end Graph

end LuauNodes
