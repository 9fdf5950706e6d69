import LuauNodes.Proofs.Registry.Descent
import LuauNodes.Proofs.Registry.ParentChain

/-!
# The forest of scopes

Parents and child sets are two records of one relation.  In a forest they agree
and every chain of parents is grounded, that is, it ends at the global scope.
Whoever adds or removes a scope takes it out of its parent's children first; in
between the two records agree except about that scope.  The main statements are
that a forest stays one when a scope is planted, moved or destroyed.
-/

namespace LuauNodes.ScopeTree

/-! ## The two records -/

/-- The children of a scope, if the scope is stored. -/
def childrenOf? (scopes : ScopeEntries) (id : String) : Option NameSet :=
  (scopes.get? id).map Scope.childIds

/-- The children of every scope are the scopes that have it as their parent. -/
def Linked (scopes : ScopeEntries) : Prop :=
  ∀ id children, childrenOf? scopes id = some children →
    ∀ child, child ∈ children ↔ parentOf? scopes child = some (some id)

/-- Parents and children agree, except that one scope is nobody's child. -/
def LinkedExcept (missing : String) (scopes : ScopeEntries) : Prop :=
  ∀ id children, childrenOf? scopes id = some children →
    ∀ child, child ∈ children ↔ parentOf? scopes child = some (some id) ∧ child ≠ missing

/-- What holds of a scope by itself wherever it is stored. -/
structure Proper (id : String) (scope : Scope) : Prop where
  keyed : scope.id = id
  inner : scope.kind ≠ .global
  increasing : scope.childIds.Increasing

/-- Every stored scope is proper, parents and children agree, and every chain of parents is
grounded. -/
structure Forest (scopes : ScopeEntries) : Prop where
  distinct : scopes.Distinct
  proper : scopes.Everywhere Proper
  linked : Linked scopes
  grounded : ∀ id scope, scopes.get? id = some scope → ∃ outer, ParentChain scopes id outer

theorem childrenOf?_eq_some_iff
    (scopes : ScopeEntries)
    (id : String)
    (children : NameSet) :
    childrenOf? scopes id = some children ↔
      ∃ scope, scopes.get? id = some scope ∧ scope.childIds = children := by
  simp [childrenOf?]

/-! ## What the single writes do to the records -/

theorem parentOf?_addChild
    (scopes : ScopeEntries)
    (parent : Option String)
    (child id : String) :
    parentOf? (addChild scopes parent child) id = parentOf? scopes id := by
  cases parent with
  | none => rfl
  | some parent =>
      exact scopes.map_get?_modify_of_kept parent id Scope.parentId (by intro scope; rfl)

theorem parentOf?_dropChild
    (scopes : ScopeEntries)
    (parent : Option String)
    (child id : String) :
    parentOf? (dropChild scopes parent child) id = parentOf? scopes id := by
  cases parent with
  | none => rfl
  | some parent =>
      exact scopes.map_get?_modify_of_kept parent id Scope.parentId (by intro scope; rfl)

theorem childrenOf?_addChild
    (scopes : ScopeEntries)
    (parent : Option String)
    (child id : String) :
    childrenOf? (addChild scopes parent child) id =
      if parent = some id then (childrenOf? scopes id).map fun children => children.insert child
      else childrenOf? scopes id := by
  cases parent with
  | none => rfl
  | some parent =>
      rw [childrenOf?, addChild, OrderedMap.get?_modify, childrenOf?]
      by_cases same : parent = id <;> simp [same, Function.comp_def]

theorem childrenOf?_dropChild
    (scopes : ScopeEntries)
    (parent : Option String)
    (child id : String) :
    childrenOf? (dropChild scopes parent child) id =
      if parent = some id then (childrenOf? scopes id).map fun children => children.erase child
      else childrenOf? scopes id := by
  cases parent with
  | none => rfl
  | some parent =>
      rw [childrenOf?, dropChild, OrderedMap.get?_modify, childrenOf?]
      by_cases same : parent = id <;> simp [same, Function.comp_def]

theorem everywhere_proper_addChild
    {scopes : ScopeEntries}
    (proper : scopes.Everywhere Proper)
    (parent : Option String)
    (child : String) :
    (addChild scopes parent child).Everywhere Proper := by
  cases parent with
  | none => exact proper
  | some parent =>
      apply proper.modify
      intro scope holds
      exact ⟨holds.keyed, holds.inner, holds.increasing.insert child⟩

theorem everywhere_proper_dropChild
    {scopes : ScopeEntries}
    (proper : scopes.Everywhere Proper)
    (parent : Option String)
    (child : String) :
    (dropChild scopes parent child).Everywhere Proper := by
  cases parent with
  | none => exact proper
  | some parent =>
      apply proper.modify
      intro scope holds
      exact ⟨holds.keyed, holds.inner, holds.increasing.erase child⟩

theorem distinct_addChild
    {scopes : ScopeEntries}
    (distinct : scopes.Distinct)
    (parent : Option String)
    (child : String) :
    (addChild scopes parent child).Distinct := by
  cases parent with
  | none => exact distinct
  | some parent => exact distinct.modify parent _

theorem distinct_dropChild
    {scopes : ScopeEntries}
    (distinct : scopes.Distinct)
    (parent : Option String)
    (child : String) :
    (dropChild scopes parent child).Distinct := by
  cases parent with
  | none => exact distinct
  | some parent => exact distinct.modify parent _

/-! ## Taking a scope out and putting it in -/

/-- Taking a scope out of its parent's children makes it nobody's child. -/
theorem Linked.detach
    {scopes : ScopeEntries}
    (linked : Linked scopes)
    {id : String}
    {parent : Option String}
    (inside : parentOf? scopes id = some parent) :
    LinkedExcept id (dropChild scopes parent id) := by
  intro other children found child
  rw [childrenOf?_dropChild] at found
  rw [parentOf?_dropChild]
  by_cases here : parent = some other
  · rw [if_pos here] at found
    rcases Option.map_eq_some_iff.mp found with ⟨before, beforeAt, rfl⟩
    rw [NameSet.mem_erase, linked other before beforeAt]
  · rw [if_neg here] at found
    rw [linked other children found]
    constructor
    · intro isChild
      refine ⟨isChild, ?_⟩
      intro same
      subst same
      rw [inside, Option.some.injEq] at isChild
      exact here isChild
    · exact And.left

/-- Putting a scope among its parent's children makes the two records agree. -/
theorem LinkedExcept.attach
    {scopes : ScopeEntries}
    {id : String}
    (linked : LinkedExcept id scopes)
    {parent : Option String}
    (inside : parentOf? scopes id = some parent) :
    Linked (addChild scopes parent id) := by
  intro other children found child
  rw [childrenOf?_addChild] at found
  rw [parentOf?_addChild]
  by_cases here : parent = some other
  · rw [if_pos here] at found
    rcases Option.map_eq_some_iff.mp found with ⟨before, beforeAt, rfl⟩
    rw [NameSet.mem_insert, linked other before beforeAt]
    constructor
    · rintro (same | ⟨isChild, _⟩)
      · rw [same, inside, here]
      · exact isChild
    · intro isChild
      by_cases same : child = id
      · exact Or.inl same
      · exact Or.inr ⟨isChild, same⟩
  · rw [if_neg here] at found
    rw [linked other children found]
    constructor
    · exact And.left
    · intro isChild
      refine ⟨isChild, ?_⟩
      intro same
      subst same
      rw [inside, Option.some.injEq] at isChild
      exact here isChild

/-! ## Below and around -/

namespace Forest

variable {scopes : ScopeEntries}

theorem empty : Forest ∅ where
  distinct := OrderedMap.distinct_empty
  proper := OrderedMap.everywhere_empty
  linked := by
    intro id children found
    cases found
  grounded := by
    intro id scope found
    cases found

theorem childrenIncreasing (forest : Forest scopes) : ChildrenIncreasing scopes :=
  fun id scope found => (forest.proper id scope found).increasing

theorem keyed_of_mem
    (forest : Forest scopes)
    {entry : String × Scope}
    (member : entry ∈ scopes.entries) :
    entry.2.id = entry.1 := by
  have found := (forest.distinct.get?_eq_some_iff entry.1 entry.2).mpr member
  exact (forest.proper entry.1 entry.2 found).keyed

/-- Every stored scope has a grounded chain. -/
theorem exists_parentChain
    (forest : Forest scopes)
    {id : String}
    {parent : Option String}
    (found : parentOf? scopes id = some parent) :
    ∃ outer, ParentChain scopes id outer := by
  rcases (parentOf?_eq_some_iff scopes id parent).mp found with ⟨scope, stored, _⟩
  exact forest.grounded id scope stored

/-- The parent of a stored scope is stored. -/
theorem parent_stored
    (forest : Forest scopes)
    {id parent : String}
    (inside : parentOf? scopes id = some (some parent)) :
    ∃ scope, scopes.get? parent = some scope := by
  rcases forest.exists_parentChain inside with ⟨outer, chain⟩
  cases chain with
  | top outermost => simp [inside] at outermost
  | under insideAgain chain =>
      rw [inside, Option.some.injEq, Option.some.injEq] at insideAgain
      exact insideAgain ▸ chain.stored

theorem isChild_iff (forest : Forest scopes) (parent child : String) :
    IsChild scopes parent child ↔ parentOf? scopes child = some (some parent) := by
  constructor
  · rintro ⟨scope, stored, member⟩
    have children : childrenOf? scopes parent = some scope.childIds := by
      simp [childrenOf?, stored]
    exact (forest.linked parent scope.childIds children child).mp member
  · intro inside
    rcases forest.parent_stored inside with ⟨scope, stored⟩
    have children : childrenOf? scopes parent = some scope.childIds := by
      simp [childrenOf?, stored]
    exact ⟨scope, stored, (forest.linked parent scope.childIds children child).mpr inside⟩

/-- What child links lead to from a scope are the scopes with it on their chain. -/
theorem isBelow_iff (forest : Forest scopes) (id other : String) :
    IsBelow scopes id other ↔ ∃ outer, ParentChain scopes other outer ∧ id ∈ outer := by
  constructor
  · intro below
    induction below with
    | single child =>
        have inside := (forest.isChild_iff _ _).mp child
        rcases forest.parent_stored inside with ⟨scope, stored⟩
        rcases forest.grounded id scope stored with ⟨outer, chain⟩
        exact ⟨id :: outer, .under inside chain, List.mem_cons_self⟩
    | tail _ child ih =>
        rcases ih with ⟨outer, chain, member⟩
        have inside := (forest.isChild_iff _ _).mp child
        exact ⟨_ :: outer, .under inside chain, List.mem_cons_of_mem _ member⟩
  · rintro ⟨outer, chain, member⟩
    induction chain with
    | top _ => cases member
    | @under other parent outer inside chain ih =>
        have child : IsChild scopes parent other := (forest.isChild_iff _ _).mpr inside
        rcases List.mem_cons.mp member with here | further
        · subst here
          exact .single child
        · exact .tail (ih further) child

/-! ## Planting -/

/-- The store with a new scope, which has no children yet. -/
def planted (scopes : ScopeEntries) (requested : Scope) : ScopeEntries :=
  scopes.insert requested.id { requested with childIds := ∅ }

theorem parentOf?_planted (scopes : ScopeEntries) (requested : Scope) (id : String) :
    parentOf? (planted scopes requested) id =
      if requested.id = id then some requested.parentId else parentOf? scopes id := by
  rw [parentOf?, planted, OrderedMap.get?_insert, parentOf?]
  split <;> rfl

theorem linkedExcept_planted
    (forest : Forest scopes)
    {requested : Scope}
    (fresh : scopes.get? requested.id = none) :
    LinkedExcept requested.id (planted scopes requested) := by
  have unknown : parentOf? scopes requested.id = none :=
    (parentOf?_eq_none_iff scopes requested.id).mpr fresh
  intro id children found child
  rw [childrenOf?, planted, OrderedMap.get?_insert] at found
  rw [parentOf?_planted]
  by_cases own : requested.id = id
  · rw [if_pos own] at found
    cases found
    have barren : parentOf? scopes child ≠ some (some requested.id) := by
      intro inside
      rcases forest.parent_stored inside with ⟨scope, stored⟩
      rw [fresh] at stored
      cases stored
    constructor
    · intro member
      exact absurd member (NameSet.not_mem_empty child)
    · rintro ⟨inside, apart⟩
      have elsewhere : requested.id ≠ child := fun equal => apart equal.symm
      rw [if_neg elsewhere, ← own] at inside
      exact absurd inside barren
  · rw [if_neg own] at found
    rw [forest.linked id children found]
    by_cases itself : requested.id = child
    · subst itself
      simp [unknown]
    · have apart : child ≠ requested.id := fun equal => itself equal.symm
      simp [itself, apart]

/-- A new scope under a parent that is stored, or under none, keeps the forest. -/
theorem plant
    (forest : Forest scopes)
    {requested : Scope}
    (fresh : scopes.get? requested.id = none)
    (inner : requested.kind ≠ .global)
    (parentStored : ∀ parent, requested.parentId = some parent →
      ∃ scope, scopes.get? parent = some scope) :
    Forest (addChild (planted scopes requested) requested.parentId requested.id) where
  distinct := distinct_addChild (forest.distinct.insert _ _) _ _
  proper := by
    apply everywhere_proper_addChild
    exact forest.proper.insert ⟨rfl, inner, NameSet.increasing_empty⟩
  linked := by
    apply (forest.linkedExcept_planted fresh).attach
    rw [parentOf?_planted, if_pos rfl]
  grounded := by
    have untouched : ∀ id outer, ParentChain scopes id outer →
        ParentChain (addChild (planted scopes requested) requested.parentId requested.id)
          id outer := by
      intro id outer chain
      apply chain.transfer
      intro member inChain
      have apart : requested.id ≠ member := by
        intro same
        rcases chain.stored_of_mem inChain with ⟨scope, found⟩
        rw [← same, fresh] at found
        cases found
      rw [parentOf?_addChild, parentOf?_planted, if_neg apart]
    intro id scope stored
    have inside := (parentOf?_eq_some_iff _ id scope.parentId).mpr ⟨scope, stored, rfl⟩
    rw [parentOf?_addChild, parentOf?_planted] at inside
    by_cases own : requested.id = id
    · subst own
      have placed : parentOf?
          (addChild (planted scopes requested) requested.parentId requested.id) requested.id =
            some requested.parentId := by
        rw [parentOf?_addChild, parentOf?_planted, if_pos rfl]
      cases parentAt : requested.parentId with
      | none => exact ⟨[], .top (by rw [← parentAt]; exact placed)⟩
      | some parent =>
          rcases parentStored parent parentAt with ⟨parentScope, parentFound⟩
          rcases forest.grounded parent parentScope parentFound with ⟨outer, chain⟩
          rw [← parentAt]
          exact ⟨parent :: outer, .under (placed.trans (by rw [parentAt])) (untouched _ _ chain)⟩
    · rw [if_neg own] at inside
      rcases forest.exists_parentChain inside with ⟨outer, chain⟩
      exact ⟨outer, untouched id outer chain⟩

/-! ## Moving -/

/-- The store with a scope taken from its parent and given what a request wants of it. -/
def uprooted (scopes : ScopeEntries) (stored requested : Scope) : ScopeEntries :=
  (dropChild scopes stored.parentId stored.id).modify stored.id fun scope => adopt scope requested

theorem parentOf?_uprooted
    {stored requested : Scope}
    {id : String}
    (found : scopes.get? id = some stored)
    (keyed : stored.id = id)
    (other : String) :
    parentOf? (uprooted scopes stored requested) other =
      if id = other then some requested.parentId else parentOf? scopes other := by
  rw [parentOf?, uprooted, OrderedMap.get?_modify, keyed]
  by_cases own : id = other
  · subst own
    have inside : parentOf? scopes id = some stored.parentId := by simp [parentOf?, found]
    have kept := parentOf?_dropChild scopes stored.parentId id id
    rw [inside, parentOf?] at kept
    rcases Option.map_eq_some_iff.mp kept with ⟨scope, scopeAt, _⟩
    simp [scopeAt, adopt]
  · rw [if_neg own, if_neg own]
    exact parentOf?_dropChild scopes stored.parentId id other

theorem childrenOf?_uprooted (stored requested : Scope) (id : String) :
    childrenOf? (uprooted scopes stored requested) id =
      childrenOf? (dropChild scopes stored.parentId stored.id) id :=
  OrderedMap.map_get?_modify_of_kept _ stored.id id Scope.childIds (by intro scope; rfl)

theorem linkedExcept_uprooted
    (forest : Forest scopes)
    {stored requested : Scope}
    {id : String}
    (found : scopes.get? id = some stored) :
    LinkedExcept id (uprooted scopes stored requested) := by
  have keyed : stored.id = id := (forest.proper id stored found).keyed
  have inside : parentOf? scopes id = some stored.parentId := by simp [parentOf?, found]
  intro other children childrenAt child
  rw [childrenOf?_uprooted, keyed] at childrenAt
  have detached := forest.linked.detach inside other children childrenAt child
  rw [parentOf?_dropChild] at detached
  rw [detached, parentOf?_uprooted found keyed]
  by_cases itself : id = child
  · subst itself
    simp
  · rw [if_neg itself]

/-- Moving a scope to where it does not come to lie below itself keeps the forest. -/
theorem move
    (forest : Forest scopes)
    {stored requested : Scope}
    {id : String}
    (found : scopes.get? id = some stored)
    (inner : requested.kind ≠ .global)
    (acyclic : ∀ parent, requested.parentId = some parent →
      ∃ outer, ParentChain scopes parent outer ∧ id ∉ parent :: outer) :
    Forest (addChild (uprooted scopes stored requested) requested.parentId id) where
  distinct :=
    distinct_addChild ((distinct_dropChild forest.distinct _ _).modify _ _) _ _
  proper := by
    apply everywhere_proper_addChild
    apply (everywhere_proper_dropChild forest.proper _ _).modify
    intro scope holds
    exact ⟨holds.keyed, inner, holds.increasing⟩
  linked := by
    have keyed : stored.id = id := (forest.proper id stored found).keyed
    apply (forest.linkedExcept_uprooted found).attach
    rw [parentOf?_uprooted found keyed, if_pos rfl]
  grounded := by
    have keyed : stored.id = id := (forest.proper id stored found).keyed
    let after := addChild (uprooted scopes stored requested) requested.parentId id
    have parents : ∀ other, parentOf? after other =
        if id = other then some requested.parentId else parentOf? scopes other := by
      intro other
      rw [parentOf?_addChild, parentOf?_uprooted found keyed]
    have apart : ∀ other outer, ParentChain scopes other outer → id ∉ other :: outer →
        ParentChain after other outer := by
      intro other outer chain absent
      apply chain.transfer
      intro member inChain
      have elsewhere : id ≠ member := fun same => absent (same ▸ inChain)
      rw [parents, if_neg elsewhere]
    -- The moved scope is grounded through its new parent, which does not lie below it.
    have own : ∃ outer, ParentChain after id outer := by
      have placed : parentOf? after id = some requested.parentId := by rw [parents, if_pos rfl]
      cases parentAt : requested.parentId with
      | none => exact ⟨[], .top (placed.trans (by rw [parentAt]))⟩
      | some parent =>
          rcases acyclic parent parentAt with ⟨outer, chain, absent⟩
          exact ⟨parent :: outer,
            .under (placed.trans (by rw [parentAt])) (apart parent outer chain absent)⟩
    -- Every other chain either misses the moved scope or goes on from it.
    have others : ∀ other outer, ParentChain scopes other outer →
        ∃ rest, ParentChain after other rest := by
      intro other outer chain
      induction chain with
      | @top other outermost =>
          by_cases itself : id = other
          · exact itself ▸ own
          · exact ⟨[], .top (by rw [parents, if_neg itself, outermost])⟩
      | @under other parent outer inside chain ih =>
          by_cases itself : id = other
          · exact itself ▸ own
          · rcases ih with ⟨rest, restChain⟩
            exact ⟨parent :: rest, .under (by rw [parents, if_neg itself, inside]) restChain⟩
    intro other scope scopeAt
    have inside := (parentOf?_eq_some_iff after other scope.parentId).mpr ⟨scope, scopeAt, rfl⟩
    rw [parents] at inside
    by_cases itself : id = other
    · exact itself ▸ own
    · rw [if_neg itself] at inside
      rcases forest.exists_parentChain inside with ⟨outer, chain⟩
      exact others other outer chain

/-! ## Destroying -/

/-- The store without some scopes, one of them taken from its parent before. -/
def pruned
    (scopes : ScopeEntries)
    (parent : Option String)
    (id : String)
    (removed : List String) :
    ScopeEntries :=
  removed.foldl OrderedMap.erase (dropChild scopes parent id)

theorem parentOf?_pruned
    (parent : Option String)
    (id : String)
    (removed : List String)
    (other : String) :
    parentOf? (pruned scopes parent id removed) other =
      if other ∈ removed then none else parentOf? scopes other := by
  rw [parentOf?, pruned, OrderedMap.get?_foldl_erase]
  split
  · rfl
  · exact parentOf?_dropChild scopes parent id other

/-- Removing a scope with everything below it keeps the forest. -/
theorem destroy
    (forest : Forest scopes)
    {id : String}
    {parent : Option String}
    (inside : parentOf? scopes id = some parent)
    {removed : List String}
    (whole : ∀ other, other ∈ removed ↔ other = id ∨ IsBelow scopes id other) :
    Forest (pruned scopes parent id removed) where
  distinct := (distinct_dropChild forest.distinct _ _).foldl_erase removed
  proper := (everywhere_proper_dropChild forest.proper _ _).foldl_erase removed
  linked := by
    intro other children childrenAt child
    rw [childrenOf?, pruned, OrderedMap.get?_foldl_erase] at childrenAt
    rw [parentOf?_pruned]
    by_cases gone : other ∈ removed
    · simp [gone] at childrenAt
    · rw [if_neg gone] at childrenAt
      have detached := forest.linked.detach inside other children childrenAt child
      rw [parentOf?_dropChild] at detached
      rw [detached]
      by_cases childGone : child ∈ removed
      · -- A removed child of a scope that stays can only be the destroyed scope itself.
        rw [if_pos childGone]
        simp only [reduceCtorEq, iff_false, not_and, not_not]
        intro isChild
        rcases (whole child).mp childGone with itself | below
        · exact itself
        · rcases (forest.isBelow_iff id child).mp below with ⟨outer, chain, member⟩
          cases chain with
          | top outermost => cases member
          | under insideChild rest =>
              rw [isChild, Option.some.injEq, Option.some.injEq] at insideChild
              subst insideChild
              refine absurd ((whole other).mpr ?_) gone
              rcases List.mem_cons.mp member with here | further
              · exact Or.inl here.symm
              · exact Or.inr ((forest.isBelow_iff id other).mpr ⟨_, rest, further⟩)
      · have apart : child ≠ id := fun same => childGone ((whole child).mpr (Or.inl same))
        simp [childGone, apart]
  grounded := by
    intro other scope scopeAt
    have insideAfter :=
      (parentOf?_eq_some_iff _ other scope.parentId).mpr ⟨scope, scopeAt, rfl⟩
    rw [parentOf?_pruned] at insideAfter
    by_cases gone : other ∈ removed
    · simp [gone] at insideAfter
    · rw [if_neg gone] at insideAfter
      rcases forest.exists_parentChain insideAfter with ⟨outer, chain⟩
      refine ⟨outer, chain.transfer ?_⟩
      intro member inChain
      rw [parentOf?_pruned, if_neg]
      intro memberGone
      rcases List.mem_cons.mp inChain with here | further
      · exact gone (here ▸ memberGone)
      · refine gone ((whole other).mpr (Or.inr ((forest.isBelow_iff id other).mpr ?_)))
        rcases chain.of_mem further with ⟨rest, restChain, suffix⟩
        refine ⟨outer, chain, suffix.subset ?_⟩
        rcases (whole member).mp memberGone with itself | below
        · exact itself ▸ List.mem_cons_self
        · rcases (forest.isBelow_iff id member).mp below with ⟨again, againChain, onChain⟩
          rw [restChain.unique againChain]
          exact List.mem_cons_of_mem member onChain

/-! ## Members -/

/-- The names declared in a scope do not matter to the forest. -/
theorem modify_members
    (forest : Forest scopes)
    (id : String)
    (names : NameSet) :
    Forest (scopes.modify id fun scope => { scope with memberNames := names }) := by
  have parents : ∀ other,
      parentOf? (scopes.modify id fun scope => { scope with memberNames := names }) other =
        parentOf? scopes other := by
    intro other
    exact scopes.map_get?_modify_of_kept id other Scope.parentId (by intro scope; rfl)
  have children : ∀ other,
      childrenOf? (scopes.modify id fun scope => { scope with memberNames := names }) other =
        childrenOf? scopes other := by
    intro other
    exact scopes.map_get?_modify_of_kept id other Scope.childIds (by intro scope; rfl)
  refine ⟨forest.distinct.modify _ _, ?_, ?_, ?_⟩
  · apply forest.proper.modify
    intro scope holds
    exact ⟨holds.keyed, holds.inner, holds.increasing⟩
  · intro other names childrenAt child
    rw [children] at childrenAt
    rw [parents]
    exact forest.linked other names childrenAt child
  · intro other scope scopeAt
    have inside := (parentOf?_eq_some_iff _ other scope.parentId).mpr ⟨scope, scopeAt, rfl⟩
    rw [parents] at inside
    rcases forest.exists_parentChain inside with ⟨outer, chain⟩
    exact ⟨outer, chain.transfer fun member _ => parents member⟩

end Forest

end LuauNodes.ScopeTree
