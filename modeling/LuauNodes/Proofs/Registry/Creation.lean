import LuauNodes.Proofs.Registry.Contents

/-!
# Creating scopes

What a request to create a scope comes to in a forest.  It is refused where the
parent is not stored, or where the scope would come to lie below itself; else
the scope is planted, or moved if it is stored already.  Following the chain of
the parent never fails, so only the global scope is an error.
-/

namespace LuauNodes.ScopeTree

/-- The parent of a request is stored, or there is none. -/
def ParentStored (scopes : ScopeEntries) (requested : Scope) : Prop :=
  ∀ parent, requested.parentId = some parent → ∃ scope, scopes.get? parent = some scope

/-- The parent of a request does not lie at or below a scope. -/
def ParentClear (scopes : ScopeEntries) (requested : Scope) (id : String) : Prop :=
  ∀ parent, requested.parentId = some parent →
    ∃ outer, ParentChain scopes parent outer ∧ id ∉ parent :: outer

/-- The scope of a request as a tree has stored it. -/
def storedIn (after : ScopeTree) (document : String) (requested : Scope) : Scope :=
  (after.get? document (some requested.id)).getD requested

/-- What a request to create a scope comes to. -/
inductive Settles (tree : ScopeTree) (document : String) (requested : Scope) : Creation → Prop where
  | parentMissing
      {parent : String}
      (wanted : requested.parentId = some parent)
      (missing : (tree.entries document).get? parent = none) :
      Settles tree document requested (.refused (.parentMissing parent))
  | cycle
      {parent : String}
      {stored : Scope}
      {outer : List String}
      (wanted : requested.parentId = some parent)
      (found : (tree.entries document).get? requested.id = some stored)
      (chain : ParentChain (tree.entries document) parent outer)
      (below : requested.id ∈ parent :: outer) :
      Settles tree document requested (.refused (.cycle parent))
  | created
      (fresh : (tree.entries document).get? requested.id = none)
      (parentStored : ParentStored (tree.entries document) requested) :
      Settles tree document requested
        (.created ((tree.plant document requested).storedIn document requested)
          (tree.plant document requested))
  | moved
      {stored : Scope}
      (found : (tree.entries document).get? requested.id = some stored)
      (parentClear : ParentClear (tree.entries document) requested requested.id) :
      Settles tree document requested
        (.moved ((tree.move document stored requested).storedIn document requested)
          (tree.move document stored requested))

variable {tree : ScopeTree} {document : String} {requested : Scope}

theorem has_some_eq_true_iff (tree : ScopeTree) (document id : String) :
    tree.has document (some id) = true ↔ ∃ scope, (tree.entries document).get? id = some scope :=
  Option.isSome_iff_exists

theorem has_some_eq_false_iff (tree : ScopeTree) (document id : String) :
    tree.has document (some id) = false ↔ (tree.entries document).get? id = none :=
  Option.isSome_eq_false_iff.trans Option.isNone_iff_eq_none

/-- Nothing stands against a scope without a parent. -/
theorem refusal?_of_outermost
    (outermost : requested.parentId = none) :
    tree.refusal? document requested = .ok none := by
  rw [refusal?, outermost]

/-- A parent that is not stored is refused. -/
theorem refusal?_of_missing
    {parent : String}
    (wanted : requested.parentId = some parent)
    (missing : (tree.entries document).get? parent = none) :
    tree.refusal? document requested = .ok (some (.parentMissing parent)) := by
  have absent := (has_some_eq_false_iff tree document parent).mpr missing
  simp [refusal?, wanted, absent]

/-- Nothing stands against a new scope under a stored parent. -/
theorem refusal?_of_fresh
    {parent : String}
    {scope : Scope}
    (wanted : requested.parentId = some parent)
    (parentAt : (tree.entries document).get? parent = some scope)
    (fresh : (tree.entries document).get? requested.id = none) :
    tree.refusal? document requested = .ok none := by
  have present := (has_some_eq_true_iff tree document parent).mpr ⟨scope, parentAt⟩
  have absent := (has_some_eq_false_iff tree document requested.id).mpr fresh
  simp [refusal?, wanted, present, absent]

/-- A stored scope is refused a parent at or below itself, and no other. -/
theorem refusal?_of_stored
    {parent : String}
    {outer : List String}
    {stored : Scope}
    (wanted : requested.parentId = some parent)
    (chain : ParentChain (tree.entries document) parent outer)
    (found : (tree.entries document).get? requested.id = some stored) :
    tree.refusal? document requested =
      .ok (if requested.id ∈ parent :: outer then some (.cycle parent) else none) := by
  have parentPresent := (has_some_eq_true_iff tree document parent).mpr chain.stored
  have present := (has_some_eq_true_iff tree document requested.id).mpr ⟨stored, found⟩
  have ancestors := ancestors_eq_of_parentChain chain
  by_cases itself : parent = requested.id
  · simp [refusal?, wanted, present, itself]
  · have apart : requested.id ≠ parent := fun same => itself same.symm
    simp [refusal?, wanted, parentPresent, present, itself, ancestors, apart]

theorem create_eq_of_refusal
    (inner : requested.kind ≠ .global)
    {reason : Refusal}
    (refused : tree.refusal? document requested = .ok (some reason)) :
    tree.create document requested = .ok (.refused reason) := by
  rw [create, if_neg inner, refused]

/-- A new scope that nothing stands against is planted. -/
theorem create_eq_of_fresh
    (inner : requested.kind ≠ .global)
    (admitted : tree.refusal? document requested = .ok none)
    (fresh : (tree.entries document).get? requested.id = none) :
    tree.create document requested =
      .ok (.created ((tree.plant document requested).storedIn document requested)
        (tree.plant document requested)) := by
  have absent : tree.get? document (some requested.id) = none := fresh
  rw [create, if_neg inner, admitted]
  dsimp only
  rw [absent]
  rfl

/-- A stored scope that nothing stands against is moved. -/
theorem create_eq_of_stored
    (inner : requested.kind ≠ .global)
    (admitted : tree.refusal? document requested = .ok none)
    {stored : Scope}
    (found : (tree.entries document).get? requested.id = some stored) :
    tree.create document requested =
      .ok (.moved ((tree.move document stored requested).storedIn document requested)
        (tree.move document stored requested)) := by
  have present : tree.get? document (some requested.id) = some stored := found
  rw [create, if_neg inner, admitted]
  dsimp only
  rw [present]
  rfl

/-- The global scope is never created. -/
theorem create_eq_error_of_global
    (outside : requested.kind = .global) :
    tree.create document requested = .error .globalScope := by
  rw [create, if_pos outside]

/-- In a forest every other request settles. -/
theorem create_settles
    (forest : Forest (tree.entries document))
    (inner : requested.kind ≠ .global) :
    ∃ creation, tree.create document requested = .ok creation ∧
      Settles tree document requested creation := by
  -- The parent is looked at first: none, one that is not stored, or a stored one with its chain.
  have parents : requested.parentId = none ∨
      (∃ parent, requested.parentId = some parent ∧
        (tree.entries document).get? parent = none) ∨
      ∃ parent outer, requested.parentId = some parent ∧
        ParentChain (tree.entries document) parent outer := by
    cases wanted : requested.parentId with
    | none => exact Or.inl rfl
    | some parent =>
        cases parentAt : (tree.entries document).get? parent with
        | none => exact Or.inr (Or.inl ⟨parent, rfl, parentAt⟩)
        | some scope =>
            rcases forest.grounded parent scope parentAt with ⟨outer, chain⟩
            exact Or.inr (Or.inr ⟨parent, outer, rfl, chain⟩)
  rcases parents with outermost | ⟨parent, wanted, missing⟩ | ⟨parent, outer, wanted, chain⟩
  · have admitted : tree.refusal? document requested = .ok none :=
      refusal?_of_outermost outermost
    cases found : (tree.entries document).get? requested.id with
    | none =>
        refine ⟨_, create_eq_of_fresh inner admitted found, .created found ?_⟩
        simp [ParentStored, outermost]
    | some stored =>
        refine ⟨_, create_eq_of_stored inner admitted found, .moved found ?_⟩
        simp [ParentClear, outermost]
  · exact ⟨_, create_eq_of_refusal inner (refusal?_of_missing wanted missing),
      .parentMissing wanted missing⟩
  · rcases chain.stored with ⟨parentScope, parentAt⟩
    cases found : (tree.entries document).get? requested.id with
    | none =>
        have admitted := refusal?_of_fresh wanted parentAt found
        refine ⟨_, create_eq_of_fresh inner admitted found, .created found ?_⟩
        intro other wantedAgain
        rw [wanted, Option.some.injEq] at wantedAgain
        exact ⟨parentScope, wantedAgain ▸ parentAt⟩
    | some stored =>
        have refusal := refusal?_of_stored wanted chain found
        by_cases below : requested.id ∈ parent :: outer
        · rw [if_pos below] at refusal
          exact ⟨_, create_eq_of_refusal inner refusal, .cycle wanted found chain below⟩
        · rw [if_neg below] at refusal
          refine ⟨_, create_eq_of_stored inner refusal found, .moved found ?_⟩
          intro other wantedAgain
          rw [wanted, Option.some.injEq] at wantedAgain
          exact wantedAgain ▸ ⟨outer, chain, below⟩

end LuauNodes.ScopeTree
