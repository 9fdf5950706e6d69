import LuauNodes.Proofs.Registry.LexicalVisibility

/-!
# Scopes are grounded

What a registry promises about the scopes of a document by themselves: parents
are stored, children and parents record one relation, and every chain of parents
ends outside all scopes.  So nothing that follows parents or children ever fails
or is cut short by its bound, whether scopes are created, destroyed or asked for
what they show.
-/

namespace LuauNodes

open ScopeTree (Forest ParentChain parentOf? parentOf?_eq_some_iff)

/-- The scopes of a document form a forest, and whatever follows its links gets to the end. -/
structure Registry.Grounded (registry : Registry) (document : String) : Prop where
  /-- The parent of a scope is stored in the same document. -/
  parentStored : ∀ scope ∈ registry.scopes.list document, ∀ parent,
    scope.parentId = some parent → registry.scopes.has document (some parent) = true
  /-- The children of a scope are the stored scopes that have it as their parent. -/
  children : ∀ scope ∈ registry.scopes.list document, ∀ child,
    (child ∈ scope.childIds ↔
      ∃ other ∈ registry.scopes.list document,
        other.id = child ∧ other.parentId = some scope.id)
  /-- Every scope has a finite chain of parents, and following its parents gives that chain. -/
  chains : ∀ scope ∈ registry.scopes.list document, ∃ outer,
    ParentChain (registry.scopes.entries document) scope.id outer ∧
      registry.scopes.ancestors document scope.id = .ok outer
  /-- Following the parents of any identifier never comes back to a scope. -/
  ancestors : ∀ id, ∃ outer, registry.scopes.ancestors document id = .ok outer
  /-- The walk below a scope finds the scopes that have it on their chain, each of them once. -/
  descendants : ∀ id,
    (registry.scopes.descendants document id).Nodup ∧
      ∀ other, other ∈ registry.scopes.descendants document id ↔
        ∃ outer, ParentChain (registry.scopes.entries document) other outer ∧ id ∈ outer
  /-- Every request for a scope is answered, except that the global scope is none. -/
  created : ∀ requested,
    (∃ change, registry.createScope document requested = .ok change) ∨
      (requested.kind = .global ∧
        registry.createScope document requested = .error .globalScope)
  /-- Destroying a scope leaves the scopes that neither are it nor have it on their chain. -/
  destroyed : ∀ id other,
    ((registry.destroyScope document id).registry.scopes.has document (some other) = true ↔
      ∃ outer, ParentChain (registry.scopes.entries document) other outer ∧ id ∉ other :: outer)
  /-- Every question for what is visible is answered. -/
  visible : ∀ space scopeId, ∃ symbols, registry.visible space document scopeId = .ok symbols
  /-- Every question for what a name means is answered. -/
  resolve : ∀ space name scopeId,
    ∃ symbol, registry.resolve space document name scopeId = .ok symbol
  /-- The question for what is visible from the current scope is answered. -/
  visibleFromCurrent : ∃ symbols, registry.visibleFromCurrent document = .ok symbols

namespace Registry

variable {registry : Registry} {document : String}

theorem ConsistentAt.mem_list_iff
    {pending : List (Option String)}
    (consistent : registry.ConsistentAt document pending)
    (scope : Scope) :
    scope ∈ registry.scopes.list document ↔
      (registry.scopes.entries document).get? scope.id = some scope := by
  constructor
  · intro listed
    rcases (consistent.forest.distinct.mem_values_iff scope).mp listed with ⟨id, stored⟩
    rw [(consistent.forest.proper id scope stored).keyed]
    exact stored
  · intro stored
    exact (consistent.forest.distinct.mem_values_iff scope).mpr ⟨scope.id, stored⟩

/-- Destroying a scope leaves what neither is the scope nor lies below it. -/
theorem ConsistentAt.has_destroyScope_iff
    {pending : List (Option String)}
    (consistent : registry.ConsistentAt document pending)
    (id other : String) :
    (registry.destroyScope document id).registry.scopes.has document (some other) = true ↔
      ∃ outer, ParentChain (registry.scopes.entries document) other outer ∧
        id ∉ other :: outer := by
  have forest := consistent.forest
  rw [ScopeTree.has_some_eq_true_iff]
  cases found : (registry.scopes.entries document).get? id with
  | none =>
      have missing : registry.scopes.get? document (some id) = none := found
      rw [Registry.destroyScope, ScopeTree.destroy, missing]
      constructor
      · rintro ⟨scope, stored⟩
        rcases forest.grounded other scope stored with ⟨outer, chain⟩
        refine ⟨outer, chain, ?_⟩
        intro member
        rcases chain.stored_of_mem member with ⟨held, heldAt⟩
        rw [found] at heldAt
        cases heldAt
      · rintro ⟨outer, chain, _⟩
        exact chain.stored
  | some scope =>
      have entries := registry.scopes.entries_destroy document id document found
      rw [if_pos rfl] at entries
      rw [(consistent.releasedIn_destroyScope found).scopes]
      show (∃ scope, ((registry.scopes.destroy document id).2.entries document).get? other = _) ↔ _
      rw [entries, ScopeTree.stored_iff_parentOf?, Forest.parentOf?_pruned]
      by_cases gone : other ∈ registry.scopes.doomed document id
      · rw [if_pos gone]
        constructor
        · intro stored
          cases stored
        · rintro ⟨outer, chain, absent⟩
          refine absurd ?_ absent
          rcases (mem_doomed_iff id other).mp gone with itself | below
          · exact itself ▸ List.mem_cons_self
          · rcases (forest.isBelow_iff id other).mp below with ⟨again, againChain, member⟩
            exact List.mem_cons_of_mem other (chain.unique againChain ▸ member)
      · rw [if_neg gone, ← ScopeTree.stored_iff_parentOf?]
        constructor
        · rintro ⟨held, stored⟩
          rcases forest.grounded other held stored with ⟨outer, chain⟩
          refine ⟨outer, chain, ?_⟩
          intro member
          refine gone ((mem_doomed_iff id other).mpr ?_)
          rcases List.mem_cons.mp member with here | further
          · exact Or.inl here.symm
          · exact Or.inr ((forest.isBelow_iff id other).mpr ⟨outer, chain, further⟩)
        · rintro ⟨outer, chain, _⟩
          exact chain.stored

/-- The scopes of a consistent registry are grounded in every document. -/
theorem Consistent.grounded (consistent : registry.Consistent) (document : String) :
    registry.Grounded document where
  parentStored := by
    intro scope listed parent inside
    have stored := ((consistent document).mem_list_iff scope).mp listed
    have parentAt := (parentOf?_eq_some_iff _ scope.id _).mpr ⟨scope, stored, inside⟩
    exact (ScopeTree.has_some_eq_true_iff _ document parent).mpr
      ((consistent document).forest.parent_stored parentAt)
  children := by
    intro scope listed child
    have stored := ((consistent document).mem_list_iff scope).mp listed
    have childrenAt := (ScopeTree.childrenOf?_eq_some_iff _ scope.id _).mpr ⟨scope, stored, rfl⟩
    rw [(consistent document).forest.linked scope.id _ childrenAt child, parentOf?_eq_some_iff]
    constructor
    · rintro ⟨other, otherAt, inside⟩
      have keyed := ((consistent document).forest.proper child other otherAt).keyed
      exact ⟨other, ((consistent document).mem_list_iff other).mpr (keyed ▸ otherAt), keyed, inside⟩
    · rintro ⟨other, otherListed, rfl, inside⟩
      exact ⟨other, ((consistent document).mem_list_iff other).mp otherListed, inside⟩
  chains := by
    intro scope listed
    have stored := ((consistent document).mem_list_iff scope).mp listed
    rcases (consistent document).forest.grounded scope.id scope stored with ⟨outer, chain⟩
    exact ⟨outer, chain, ScopeTree.ancestors_eq_of_parentChain chain⟩
  ancestors := by
    intro id
    cases found : (registry.scopes.entries document).get? id with
    | none => exact ⟨[], ScopeTree.ancestors_eq_nil_of_not_stored found⟩
    | some scope =>
        rcases (consistent document).forest.grounded id scope found with ⟨outer, chain⟩
        exact ⟨outer, ScopeTree.ancestors_eq_of_parentChain chain⟩
  descendants := by
    intro id
    have increasing := (consistent document).forest.childrenIncreasing
    refine ⟨ScopeTree.nodup_descendants increasing id, ?_⟩
    intro other
    rw [ScopeTree.mem_descendants_iff, (consistent document).forest.isBelow_iff]
  created := by
    intro requested
    by_cases outside : requested.kind = .global
    · refine Or.inr ⟨outside, ?_⟩
      rw [Registry.createScope, ScopeTree.create_eq_error_of_global outside]
    · rcases consistent.createScope document outside with ⟨change, created, _⟩
      exact Or.inl ⟨change, created⟩
  destroyed := (consistent document).has_destroyScope_iff
  visible := exists_visible (consistent document).forest
  resolve := by
    intro space name scopeId
    rcases exists_visible (consistent document).forest space scopeId with ⟨symbols, shown⟩
    rw [Registry.visible] at shown
    exact ⟨_, by rw [Registry.resolve, resolveSymbol, shown]⟩
  visibleFromCurrent := by
    rw [Registry.visibleFromCurrent]
    split
    · exact ⟨_, rfl⟩
    · exact exists_visible (consistent document).forest .vars _

end Registry

/-- In every registry that some run comes to, the scopes of every document form a forest, and
nothing that follows their links fails. -/
theorem Registry.Reachable.scope_forest
    {registry : Registry}
    (reachable : registry.Reachable)
    (document : String) :
    registry.Grounded document :=
  reachable.consistent.grounded document

/-- The loop of a function body is stored when the body is moved, destroyed or asked for. -/
theorem Registry.scope_forest_while_shadowing :
    (Dispatch.asking Operation.shadowing).registry.Reachable ∧
      (Dispatch.asking Operation.shadowing).registry.scopes.has "main" (some "loop") = true ∧
      (Dispatch.asking Operation.shadowing).registry.Grounded "main" :=
  ⟨(Dispatch.reachable_asking Operation.shadowing).registry,
    by decide,
    Registry.Reachable.scope_forest (Dispatch.reachable_asking Operation.shadowing).registry "main"⟩

end LuauNodes
