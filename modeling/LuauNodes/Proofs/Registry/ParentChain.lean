import LuauNodes.Registry.ScopeTree
import Mathlib.Data.List.Perm.Subperm

/-!
# Chains of parents

The scopes around a scope, from the inside out, as far as the implicit global
scope.  A chain is unique and never comes back to a scope, so it is no longer
than the store, and following parents with a bound of that size returns it
whole.
-/

namespace LuauNodes.ScopeTree

/-- The parent of a scope, if the scope is stored. -/
def parentOf? (scopes : ScopeEntries) (id : String) : Option (Option String) :=
  (scopes.get? id).map Scope.parentId

/-- The scopes around a stored scope, innermost first, up to one without a parent. -/
inductive ParentChain (scopes : ScopeEntries) : String → List String → Prop where
  | top {id : String} (outermost : parentOf? scopes id = some none) : ParentChain scopes id []
  | under
      {id parent : String}
      {outer : List String}
      (inside : parentOf? scopes id = some (some parent))
      (chain : ParentChain scopes parent outer) :
      ParentChain scopes id (parent :: outer)

theorem parentOf?_eq_some_iff
    (scopes : ScopeEntries)
    (id : String)
    (parent : Option String) :
    parentOf? scopes id = some parent ↔
      ∃ scope, scopes.get? id = some scope ∧ scope.parentId = parent := by
  simp [parentOf?]

theorem parentOf?_eq_none_iff (scopes : ScopeEntries) (id : String) :
    parentOf? scopes id = none ↔ scopes.get? id = none := by
  simp [parentOf?]

namespace ParentChain

variable {scopes : ScopeEntries} {id : String} {outer : List String}

theorem stored (chain : ParentChain scopes id outer) : ∃ scope, scopes.get? id = some scope := by
  cases chain with
  | top outermost =>
      rcases (parentOf?_eq_some_iff scopes id none).mp outermost with ⟨scope, found, _⟩
      exact ⟨scope, found⟩
  | under inside _ =>
      rcases (parentOf?_eq_some_iff scopes id _).mp inside with ⟨scope, found, _⟩
      exact ⟨scope, found⟩

/-- A scope has at most one chain of parents. -/
theorem unique
    {other : List String}
    (chain : ParentChain scopes id outer)
    (again : ParentChain scopes id other) :
    outer = other := by
  induction chain generalizing other with
  | top outermost =>
      cases again with
      | top _ => rfl
      | under inside _ => simp [outermost] at inside
  | under inside chain ih =>
      cases again with
      | top outermost => simp [outermost] at inside
      | under insideAgain rest =>
          rw [inside, Option.some.injEq, Option.some.injEq] at insideAgain
          subst insideAgain
          rw [ih rest]

/-- From every member of a chain the rest of the chain goes on. -/
theorem of_mem
    (chain : ParentChain scopes id outer)
    {member : String}
    (inChain : member ∈ outer) :
    ∃ rest, ParentChain scopes member rest ∧ member :: rest <:+ outer := by
  induction chain with
  | top _ => cases inChain
  | @under id parent outer inside chain ih =>
      rcases List.mem_cons.mp inChain with here | further
      · subst here
        exact ⟨outer, chain, List.suffix_refl _⟩
      · rcases ih further with ⟨rest, restChain, suffix⟩
        exact ⟨rest, restChain, suffix.trans (List.suffix_cons parent outer)⟩

theorem stored_of_mem
    (chain : ParentChain scopes id outer)
    {member : String}
    (inChain : member ∈ id :: outer) :
    ∃ scope, scopes.get? member = some scope := by
  rcases List.mem_cons.mp inChain with here | further
  · exact here ▸ chain.stored
  · rcases chain.of_mem further with ⟨rest, restChain, _⟩
    exact restChain.stored

/-- A chain never comes back to its start. -/
theorem not_mem_self (chain : ParentChain scopes id outer) : id ∉ outer := by
  intro inChain
  rcases chain.of_mem inChain with ⟨rest, restChain, suffix⟩
  have same : outer = rest := chain.unique restChain
  have longer := suffix.length_le
  rw [same, List.length_cons] at longer
  omega

/-- No scope occurs twice on a chain. -/
theorem nodup (chain : ParentChain scopes id outer) : (id :: outer).Nodup := by
  induction chain with
  | top _ => simp
  | under inside chain ih => exact List.nodup_cons.mpr ⟨(under inside chain).not_mem_self, ih⟩

/-- A chain is no longer than the store. -/
theorem length_lt_size (chain : ParentChain scopes id outer) : outer.length < scopes.size := by
  have inStore : id :: outer ⊆ scopes.keys := by
    intro member inChain
    rcases chain.stored_of_mem inChain with ⟨scope, found⟩
    exact OrderedMap.mem_keys_of_get?_eq_some found
  have bound := (List.subperm_of_subset chain.nodup inStore).length_le
  simp only [List.length_cons, OrderedMap.keys, List.length_map] at bound
  exact bound

/-- A chain depends on nothing but the parents of the scopes on it. -/
theorem transfer
    {after : ScopeEntries}
    (chain : ParentChain scopes id outer)
    (agree : ∀ member ∈ id :: outer, parentOf? after member = parentOf? scopes member) :
    ParentChain after id outer := by
  induction chain with
  | top outermost => exact top (by rw [agree _ List.mem_cons_self, outermost])
  | @under id parent outer inside chain ih =>
      refine under (by rw [agree _ List.mem_cons_self, inside]) (ih ?_)
      intro member inChain
      exact agree member (List.mem_cons_of_mem id inChain)

/-- Following parents goes to the end of a chain, if the bound admits its length. -/
theorem followParents_eq
    (chain : ParentChain scopes id outer)
    {start : String}
    {fuel : Nat}
    {passed : List String}
    (enough : outer.length ≤ fuel)
    (fresh : (start :: (passed ++ outer)).Nodup) :
    followParents scopes start fuel passed id = .ok (passed ++ outer) := by
  induction chain generalizing fuel passed with
  | @top id outermost =>
      cases fuel with
      | zero => simp [followParents]
      | succ fuel =>
          rcases (parentOf?_eq_some_iff scopes id _).mp outermost with ⟨scope, found, none⟩
          simp [followParents, found, none]
  | @under id parent outer inside chain ih =>
      cases fuel with
      | zero => simp at enough
      | succ fuel =>
          rcases (parentOf?_eq_some_iff scopes id _).mp inside with ⟨scope, found, parentEq⟩
          have shifted : passed ++ parent :: outer = passed ++ [parent] ++ outer := by simp
          have apart : parent ∉ passed ∧ parent ≠ start := by
            have outside : start ≠ parent := by
              intro equal
              subst equal
              simp at fresh
            have unpassed : parent ∉ passed := by
              intro passedBefore
              have split := (List.nodup_append.mp (List.nodup_cons.mp fresh).2).2.2
              exact split parent passedBefore parent List.mem_cons_self rfl
            exact ⟨unpassed, outside.symm⟩
          have further : outer.length ≤ fuel := by simpa using enough
          rw [shifted] at fresh ⊢
          simpa [followParents, found, parentEq, apart.1, apart.2] using ih further fresh

end ParentChain

/-- The chain of parents of a stored scope is what is found by following them. -/
theorem ancestors_eq_of_parentChain
    {tree : ScopeTree}
    {document id : String}
    {outer : List String}
    (chain : ParentChain (tree.entries document) id outer) :
    tree.ancestors document id = .ok outer := by
  have within : outer.length ≤ (tree.entries document).size + 1 := by
    have bound := chain.length_lt_size
    omega
  have followed : followParents (tree.entries document) id
      ((tree.entries document).size + 1) [] id = .ok outer :=
    chain.followParents_eq within chain.nodup
  simp [ancestors, followed]

/-- A scope that is not stored has no parents to follow. -/
theorem ancestors_eq_nil_of_not_stored
    {tree : ScopeTree}
    {document id : String}
    (missing : (tree.entries document).get? id = none) :
    tree.ancestors document id = .ok [] := by
  simp [ancestors, followParents, missing]

end LuauNodes.ScopeTree
