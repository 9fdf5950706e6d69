import LuauNodes.Proofs.Registry.Creation
import LuauNodes.Proofs.Registry.SymbolSteps

/-!
# What operations on scopes keep

Operations on scopes keep every document consistent.  A planted or moved scope
has its names brought up to date at the end.  A destroyed scope takes its whole
subtree along and every symbol that the subtree owned, so that nothing is left
without an owner.
-/

namespace LuauNodes.ScopeTree

/-! ## Names of scopes -/

/-- The names declared in a scope, if the scope is stored. -/
def membersOf? (scopes : ScopeEntries) (id : String) : Option NameSet :=
  (scopes.get? id).map Scope.memberNames

theorem membersOf?_addChild
    (scopes : ScopeEntries)
    (parent : Option String)
    (child id : String) :
    membersOf? (addChild scopes parent child) id = membersOf? scopes id := by
  cases parent with
  | none => rfl
  | some parent =>
      exact scopes.map_get?_modify_of_kept parent id Scope.memberNames (by intro scope; rfl)

theorem membersOf?_dropChild
    (scopes : ScopeEntries)
    (parent : Option String)
    (child id : String) :
    membersOf? (dropChild scopes parent child) id = membersOf? scopes id := by
  cases parent with
  | none => rfl
  | some parent =>
      exact scopes.map_get?_modify_of_kept parent id Scope.memberNames (by intro scope; rfl)

theorem membersOf?_planted_of_ne
    (scopes : ScopeEntries)
    (requested : Scope)
    {id : String}
    (apart : requested.id ≠ id) :
    membersOf? (Forest.planted scopes requested) id = membersOf? scopes id := by
  rw [membersOf?, Forest.planted, OrderedMap.get?_insert, if_neg apart, membersOf?]

theorem membersOf?_uprooted_of_ne
    (scopes : ScopeEntries)
    (stored requested : Scope)
    {id : String}
    (apart : stored.id ≠ id) :
    membersOf? (Forest.uprooted scopes stored requested) id = membersOf? scopes id := by
  rw [membersOf?, Forest.uprooted, OrderedMap.get?_modify, if_neg apart]
  exact membersOf?_dropChild scopes stored.parentId stored.id id

theorem membersOf?_pruned
    (scopes : ScopeEntries)
    (parent : Option String)
    (id : String)
    (removed : List String)
    (other : String) :
    membersOf? (Forest.pruned scopes parent id removed) other =
      if other ∈ removed then none else membersOf? scopes other := by
  rw [membersOf?, Forest.pruned, OrderedMap.get?_foldl_erase]
  split
  · rfl
  · exact membersOf?_dropChild scopes parent id other

/-- A scope is stored where its parent is known. -/
theorem stored_iff_parentOf? (scopes : ScopeEntries) (id : String) :
    (∃ scope, scopes.get? id = some scope) ↔ (parentOf? scopes id).isSome = true := by
  rw [parentOf?, Option.isSome_map, Option.isSome_iff_exists]

end LuauNodes.ScopeTree

namespace LuauNodes.Registry

open OrderedMap
open ScopeTree (Forest Settles parentOf? parentOf?_eq_some_iff membersOf? stored_iff_parentOf?)

variable {registry : Registry} {document : String} {pending : List (Option String)}

/-- The registry with its scopes replaced. -/
def withScopes (registry : Registry) (tree : ScopeTree) : Registry :=
  { registry with scopes := tree }

@[simp]
theorem table_withScopes (registry : Registry) (tree : ScopeTree) (space : Namespace) :
    (registry.withScopes tree).table space = registry.table space := by
  cases space <;> rfl

theorem sameContents_withScopes
    {tree : ScopeTree}
    {other : String}
    (same : tree.entries other = registry.scopes.entries other) :
    SameContents other (registry.withScopes tree) registry :=
  ⟨fun space => by rw [table_withScopes], same⟩

/-! ## Creating -/

/-- A forest in which every scope is still stored keeps consistency, except about the names of
scopes whose names it changed. -/
theorem ConsistentAt.withScopes
    (consistent : registry.ConsistentAt document pending)
    {tree : ScopeTree}
    {touched : List (Option String)}
    (forest : Forest (tree.entries document))
    (kept : ∀ id, (∃ scope, (registry.scopes.entries document).get? id = some scope) →
      ∃ scope, (tree.entries document).get? id = some scope)
    (wider : pending ⊆ touched)
    (names : ∀ id, some id ∉ touched →
      membersOf? (tree.entries document) id =
        membersOf? (registry.scopes.entries document) id) :
    (registry.withScopes tree).ConsistentAt document touched := by
  refine ⟨forest, ?_, ?_⟩
  · intro space
    rw [table_withScopes]
    have before := consistent.owned space
    refine ⟨before.distinct, ?_⟩
    intro key symbol symbolAt
    have placed := before.placed key symbol symbolAt
    exact ⟨placed.keyed, fun id owner => kept id (placed.owner id owner), placed.kind⟩
  · intro id scope stored settled name
    have here : membersOf? (tree.entries document) id = some scope.memberNames :=
      congrArg (Option.map Scope.memberNames) stored
    rw [names id settled] at here
    rcases Option.map_eq_some_iff.mp here with ⟨before, beforeAt, same⟩
    rw [← same]
    rw [consistent.enrolled id before beforeAt (fun member => settled (wider member)) name]
    exact exists_congr fun space => by rw [table_withScopes]

/-- Replacing the scopes of a document and bringing one scope up to date keeps consistency. -/
theorem Consistent.settle
    (consistent : registry.Consistent)
    {tree : ScopeTree}
    {id : String}
    (here : (registry.withScopes tree).ConsistentAt document [some id])
    (elsewhere : ∀ other, document ≠ other → tree.entries other = registry.scopes.entries other) :
    ((registry.withScopes tree).syncMembers document (some id)).Consistent := by
  apply consistent.of_document here.syncMembers
  intro other apart
  exact (sameContents_syncMembers _ apart).trans (sameContents_withScopes (elsewhere other apart))

theorem Consistent.plant
    (consistent : registry.Consistent)
    {requested : Scope}
    (inner : requested.kind ≠ .global)
    (fresh : (registry.scopes.entries document).get? requested.id = none)
    (parentStored : ScopeTree.ParentStored (registry.scopes.entries document) requested) :
    ((registry.withScopes (registry.scopes.plant document requested)).syncMembers document
      (some requested.id)).Consistent := by
  have entries := registry.scopes.entries_plant document document requested
  rw [if_pos rfl] at entries
  have forest := (consistent document).forest
  apply consistent.settle
  · apply (consistent document).withScopes
    · rw [entries]
      exact forest.plant fresh inner parentStored
    · intro id stored
      rw [entries, stored_iff_parentOf?, ScopeTree.parentOf?_addChild, Forest.parentOf?_planted]
      split
      · rfl
      · exact (stored_iff_parentOf? _ id).mp stored
    · exact List.nil_subset _
    · intro id settled
      have apart : requested.id ≠ id := fun same => settled (same ▸ List.mem_cons_self)
      rw [entries, ScopeTree.membersOf?_addChild, ScopeTree.membersOf?_planted_of_ne _ _ apart]
  · intro other apart
    rw [ScopeTree.entries_plant, if_neg apart]

theorem Consistent.move
    (consistent : registry.Consistent)
    {stored requested : Scope}
    (inner : requested.kind ≠ .global)
    (found : (registry.scopes.entries document).get? requested.id = some stored)
    (parentClear :
      ScopeTree.ParentClear (registry.scopes.entries document) requested requested.id) :
    ((registry.withScopes (registry.scopes.move document stored requested)).syncMembers document
      (some requested.id)).Consistent := by
  have forest := (consistent document).forest
  have keyed : stored.id = requested.id := (forest.proper _ stored found).keyed
  have entries := registry.scopes.entries_move document document stored requested
  rw [if_pos rfl, keyed] at entries
  apply consistent.settle
  · apply (consistent document).withScopes
    · rw [entries]
      exact forest.move found inner parentClear
    · intro id storedAt
      rw [entries, stored_iff_parentOf?, ScopeTree.parentOf?_addChild,
        Forest.parentOf?_uprooted found keyed]
      split
      · rfl
      · exact (stored_iff_parentOf? _ id).mp storedAt
    · exact List.nil_subset _
    · intro id settled
      have apart : stored.id ≠ id := by
        intro same
        exact settled (List.mem_singleton.mpr (congrArg some (same.symm.trans keyed)))
      rw [entries, ScopeTree.membersOf?_addChild,
        ScopeTree.membersOf?_uprooted_of_ne _ _ _ apart]
  · intro other apart
    rw [ScopeTree.entries_move, if_neg apart]

/-- Every request for a scope but the global one is answered. -/
theorem Consistent.createScope
    (consistent : registry.Consistent)
    (document : String)
    {requested : Scope}
    (inner : requested.kind ≠ .global) :
    ∃ change, registry.createScope document requested = .ok change ∧
      change.registry.Consistent := by
  obtain ⟨creation, created, settles⟩ :=
    ScopeTree.create_settles (consistent document).forest inner
  rw [Registry.createScope, created]
  cases settles with
  | parentMissing wanted missing => exact ⟨_, rfl, consistent⟩
  | cycle wanted found chain below => exact ⟨_, rfl, consistent⟩
  | created fresh parentStored => exact ⟨_, rfl, consistent.plant inner fresh parentStored⟩
  | moved found parentClear => exact ⟨_, rfl, consistent.move inner found parentClear⟩

/-! ## Destroying -/

/-- The symbols that are left when those of some scopes go. -/
structure Released (gone : List String) (before after : SymbolEntries) : Prop where
  distinct : before.Distinct → after.Distinct
  kept : ∀ key, after.get? key = if key.scopeId ∈ gone.map some then none else before.get? key

theorem Released.refl (symbols : SymbolEntries) : Released [] symbols symbols :=
  ⟨id, fun _ => rfl⟩

theorem Released.trans
    {first second : List String}
    {before middle after : SymbolEntries}
    (one : Released first before middle)
    (two : Released second middle after) :
    Released (first ++ second) before after := by
  refine ⟨fun distinct => two.distinct (one.distinct distinct), ?_⟩
  intro key
  rw [two.kept, one.kept, List.map_append]
  by_cases early : key.scopeId ∈ first.map some
  · rw [if_pos early, if_pos (List.mem_append_left _ early)]
    exact ite_self none
  · rw [if_neg early]
    by_cases late : key.scopeId ∈ second.map some
    · rw [if_pos late, if_pos (List.mem_append_right _ late)]
    · rw [if_neg late, if_neg (List.not_mem_append early late)]

theorem Released.owned
    {gone : List String}
    {scopes : ScopeEntries}
    {before after : SymbolEntries}
    (released : Released gone before after)
    (owned : Owned scopes before) :
    Owned scopes after := by
  refine ⟨released.distinct owned.distinct, ?_⟩
  intro key symbol symbolAt
  rw [released.kept] at symbolAt
  split at symbolAt
  · cases symbolAt
  · exact owned.placed key symbol symbolAt

/-- Erasing the keys of a scope's symbols releases exactly the symbols of that scope. -/
theorem released_memberKeys
    {scopes : ScopeEntries}
    {table : SymbolTable}
    (owned : Owned scopes (table.entries document))
    (id : String) :
    Released [id] (table.entries document)
      ((table.memberKeys document (some id)).foldl OrderedMap.erase (table.entries document)) := by
  refine ⟨fun distinct => distinct.foldl_erase _, ?_⟩
  intro key
  have keyed : (table.entries document).Everywhere fun key symbol => symbol.key = key :=
    fun key symbol found => (owned.placed key symbol found).keyed
  rw [SymbolTable.get?_foldl_erase_memberKeys owned.distinct keyed, List.map_singleton]
  simp only [List.mem_singleton]

/-- What a registry holds after the symbols of some scopes of a document went. -/
structure ReleasedIn (document : String) (gone : List String) (before after : Registry) : Prop where
  scopes : after.scopes = before.scopes
  elsewhere : ∀ space other, document ≠ other →
    (after.table space).entries other = (before.table space).entries other
  here : ∀ space,
    Released gone ((before.table space).entries document) ((after.table space).entries document)

theorem ReleasedIn.refl (document : String) (registry : Registry) :
    ReleasedIn document [] registry registry :=
  ⟨rfl, fun _ _ _ => rfl, fun _ => .refl _⟩

theorem ReleasedIn.trans
    {first second : List String}
    {before middle after : Registry}
    (one : ReleasedIn document first before middle)
    (two : ReleasedIn document second middle after) :
    ReleasedIn document (first ++ second) before after where
  scopes := two.scopes.trans one.scopes
  elsewhere := fun space other apart =>
    (two.elsewhere space other apart).trans (one.elsewhere space other apart)
  here := fun space => (one.here space).trans (two.here space)

theorem table_dropMembers
    (registry : Registry)
    (space other : Namespace)
    (document id target : String) :
    ((dropMembers space document id registry).registry.table other).entries target =
      if space = other ∧ document = target then
        ((registry.table space).memberKeys document (some id)).foldl OrderedMap.erase
          ((registry.table space).entries document)
      else (registry.table other).entries target := by
  show ((registry.setTable space _).table other).entries target = _
  rw [table_setTable]
  by_cases same : space = other
  · rw [if_pos same, SymbolTable.entries_removeEach]
    simp [same]
  · rw [if_neg same, if_neg fun both => same both.1]

theorem scopes_dropMembers
    (registry : Registry)
    (space : Namespace)
    (document id : String) :
    (dropMembers space document id registry).registry.scopes = registry.scopes :=
  scopes_setTable _ _ _

/-- The symbols of a scope go from both namespaces. -/
theorem releasedIn_dropOwned
    {scopes : ScopeEntries}
    {change : Change (List String)}
    (owned : ∀ space, Owned scopes ((change.registry.table space).entries document))
    (id : String) :
    ReleasedIn document [id] change.registry (dropOwned document change id).registry := by
  let middle := (dropMembers .vars document id change.registry).registry
  show ReleasedIn document [id] change.registry
    (dropMembers .functions document id middle).registry
  refine ⟨?_, ?_, ?_⟩
  · rw [scopes_dropMembers, scopes_dropMembers]
  · intro space other apart
    rw [table_dropMembers, if_neg fun both => apart both.2, table_dropMembers,
      if_neg fun both => apart both.2]
  · intro space
    cases space with
    | vars =>
        rw [table_dropMembers, if_neg (by simp), table_dropMembers, if_pos ⟨rfl, rfl⟩]
        exact released_memberKeys (owned .vars) id
    | functions =>
        have same : (middle.table .functions).entries document =
            (change.registry.table .functions).entries document := by
          rw [table_dropMembers, if_neg (by simp)]
        rw [table_dropMembers, if_pos ⟨rfl, rfl⟩, ← same]
        exact released_memberKeys (same ▸ owned .functions) id

/-- The symbols of every scope of a list go from both namespaces. -/
theorem releasedIn_foldl_dropOwned
    {scopes : ScopeEntries}
    {change : Change (List String)}
    (owned : ∀ space, Owned scopes ((change.registry.table space).entries document))
    (gone : List String) :
    ReleasedIn document gone change.registry
      (gone.foldl (dropOwned document) change).registry := by
  induction gone generalizing change with
  | nil => exact .refl document change.registry
  | cons id rest ih =>
      have first := releasedIn_dropOwned owned id
      exact first.trans (ih fun space => (first.here space).owned (owned space))

/-- The scopes that go with a scope are the scope and what lies below it. -/
theorem mem_doomed_iff
    {tree : ScopeTree}
    (id other : String) :
    other ∈ tree.doomed document id ↔
      other = id ∨ ScopeTree.IsBelow (tree.entries document) id other := by
  rw [ScopeTree.doomed, List.mem_append, List.mem_reverse, List.mem_singleton,
    ScopeTree.mem_descendants_iff]
  exact or_comm

/-- A document stays consistent when a subtree goes with all that it owned. -/
theorem ConsistentAt.destroy
    {after : Registry}
    {id : String}
    {scope : Scope}
    (consistent : registry.ConsistentAt document [])
    (found : (registry.scopes.entries document).get? id = some scope)
    (entries : after.scopes.entries document =
      Forest.pruned (registry.scopes.entries document) scope.parentId id
        (registry.scopes.doomed document id))
    (released : ∀ space,
      Released (registry.scopes.doomed document id)
        ((registry.table space).entries document) ((after.table space).entries document)) :
    after.ConsistentAt document [] := by
  let removed := registry.scopes.doomed document id
  have inside : parentOf? (registry.scopes.entries document) id = some scope.parentId :=
    (parentOf?_eq_some_iff _ id _).mpr ⟨scope, found, rfl⟩
  refine ⟨?_, ?_, ?_⟩
  · rw [entries]
    exact consistent.forest.destroy inside (mem_doomed_iff id)
  · intro space
    have before := consistent.owned space
    refine ⟨(released space).distinct before.distinct, ?_⟩
    intro key symbol symbolAt
    rw [(released space).kept] at symbolAt
    by_cases gone : key.scopeId ∈ removed.map some
    · rw [if_pos gone] at symbolAt
      cases symbolAt
    · rw [if_neg gone] at symbolAt
      have placed := before.placed key symbol symbolAt
      refine ⟨placed.keyed, ?_, placed.kind⟩
      intro owner owned
      have ownerKey : key.scopeId = some owner := by rw [← placed.keyed]; exact owned
      have stays : owner ∉ removed := by
        intro member
        exact gone (ownerKey ▸ List.mem_map.mpr ⟨owner, member, rfl⟩)
      have stored := (stored_iff_parentOf? _ owner).mp (placed.owner owner owned)
      rw [entries, stored_iff_parentOf?, Forest.parentOf?_pruned, if_neg stays]
      exact stored
  · intro other held heldAt _ name
    have here : membersOf? (after.scopes.entries document) other = some held.memberNames :=
      congrArg (Option.map Scope.memberNames) heldAt
    rw [entries, ScopeTree.membersOf?_pruned] at here
    by_cases gone : other ∈ removed
    · rw [if_pos gone] at here
      cases here
    · rw [if_neg gone] at here
      rcases Option.map_eq_some_iff.mp here with ⟨before, beforeAt, same⟩
      rw [← same, consistent.enrolled other before beforeAt List.not_mem_nil name]
      refine exists_congr fun space => ?_
      have stays : (⟨some other, name⟩ : SymbolKey).scopeId ∉ removed.map some := by
        intro member
        rcases List.mem_map.mp member with ⟨found, foundIn, equal⟩
        exact gone (Option.some.inj equal ▸ foundIn)
      rw [(released space).kept, if_neg stays]

/-- The destruction of a scope before the symbols of the removed scopes are dropped. -/
def felling (registry : Registry) (document id : String) : Change (List String) :=
  ⟨registry.withScopes (registry.scopes.destroy document id).2,
    registry.scopes.doomed document id,
    [],
    [.scopeDestroyed document id (registry.scopes.doomed document id)]⟩

@[simp]
theorem table_felling (registry : Registry) (document id : String) (space : Namespace) :
    (registry.felling document id).registry.table space = registry.table space :=
  table_withScopes registry _ space

/-- Destroying a stored scope prunes the tree, and then drops what each of the removed scopes
owned. -/
theorem destroyScope_eq
    {id : String}
    {scope : Scope}
    (stored : registry.scopes.get? document (some id) = some scope) :
    registry.destroyScope document id =
      ((registry.scopes.doomed document id).foldl (dropOwned document)
        (registry.felling document id)).announcing
        ⟨document, .scopesChanged, none, some id⟩ := by
  have first := registry.scopes.fst_destroy document id stored
  rw [destroyScope, felling]
  split
  · rename_i tree none
    rw [none, ScopeTree.doomed] at first
    simp at first
  · rename_i removed tree _ pair
    rw [pair] at first ⊢
    rw [← first]
    rfl

theorem destroyScope_of_missing
    {id : String}
    (missing : registry.scopes.get? document (some id) = none) :
    registry.destroyScope document id = registry.unchanged [] [] := by
  rw [destroyScope, ScopeTree.destroy, missing]

/-- Destroying a stored scope prunes the tree and releases the symbols of what went. -/
theorem ConsistentAt.releasedIn_destroyScope
    (consistent : registry.ConsistentAt document pending)
    {id : String}
    {scope : Scope}
    (found : (registry.scopes.entries document).get? id = some scope) :
    ReleasedIn document (registry.scopes.doomed document id)
      (registry.withScopes (registry.scopes.destroy document id).2)
      (registry.destroyScope document id).registry := by
  have owned : ∀ space, Owned (registry.scopes.entries document)
      (((registry.felling document id).registry.table space).entries document) := by
    intro space
    rw [table_felling]
    exact consistent.owned space
  rw [destroyScope_eq found]
  exact releasedIn_foldl_dropOwned owned _

theorem Consistent.destroyScope
    (consistent : registry.Consistent)
    (document id : String) :
    (registry.destroyScope document id).registry.Consistent := by
  cases found : (registry.scopes.entries document).get? id with
  | none =>
      rw [destroyScope_of_missing found]
      exact consistent
  | some scope =>
      have released := (consistent document).releasedIn_destroyScope found
      have entries := registry.scopes.entries_destroy document id
      apply consistent.of_document
      · apply (consistent document).destroy found
        · rw [released.scopes]
          exact (entries document found).trans (if_pos rfl)
        · intro space
          have here := released.here space
          rw [table_withScopes] at here
          exact here
      · intro other apart
        constructor
        · intro space
          rw [released.elsewhere space other apart, table_withScopes]
        · rw [released.scopes]
          exact (entries other found).trans (if_neg apart)

/-! ## Entering, leaving and clearing -/

/-- The entered scopes do not matter to consistency. -/
theorem Consistent.of_entries
    {tree : ScopeTree}
    (consistent : registry.Consistent)
    (same : ∀ other, tree.entries other = registry.scopes.entries other) :
    (registry.withScopes tree).Consistent := by
  intro other
  exact (consistent other).transfer (sameContents_withScopes (same other))

theorem Consistent.enterScope
    (consistent : registry.Consistent)
    (document : String)
    (scopeId : Option String) :
    (registry.enterScope document scopeId).registry.Consistent := by
  unfold Registry.enterScope
  split
  · exact consistent.of_entries fun other => ScopeTree.entries_enter _ _ _ other
  · exact consistent

theorem Consistent.exitScope
    (consistent : registry.Consistent)
    (document scopeId : String) :
    (registry.exitScope document scopeId).registry.Consistent := by
  unfold Registry.exitScope
  split
  · exact consistent.of_entries fun other => ScopeTree.entries_leave _ _ _ other
  · exact consistent

theorem Consistent.clearDocument
    (consistent : registry.Consistent)
    (document : String) :
    (registry.clearDocument document).registry.Consistent := by
  have tables : ∀ space other,
      ((registry.clearDocument document).registry.table space).entries other =
        if document = other then ∅ else (registry.table space).entries other := by
    intro space other
    cases space <;> exact SymbolTable.entries_clear _ document other
  have scopes : ∀ other, (registry.clearDocument document).registry.scopes.entries other =
      if document = other then ∅ else registry.scopes.entries other :=
    ScopeTree.entries_clear registry.scopes document
  intro other
  by_cases same : document = other
  · apply (consistent_empty other).transfer
    constructor
    · intro space
      rw [tables, if_pos same]
      cases space <;> rfl
    · rw [scopes, if_pos same]
      rfl
  · apply (consistent other).transfer
    constructor
    · intro space
      rw [tables, if_neg same]
    · rw [scopes, if_neg same]

/-! ## Runs -/

/-- Every operation keeps every document consistent. -/
theorem Consistent.effect
    {after : Registry}
    {events : List Event}
    (consistent : registry.Consistent)
    (operation : Operation)
    (accepted : operation.effect registry = .ok (after, events)) :
    after.Consistent := by
  cases operation with
  | declare space document symbol =>
      cases accepted
      exact consistent.declare space document symbol
  | revise space document name scopeId fields =>
      cases accepted
      exact consistent.revise space document name scopeId fields
  | remove space document name scopeId =>
      cases accepted
      exact consistent.remove space document name scopeId
  | clearSymbols space document =>
      cases accepted
      exact consistent.clearSymbols space document
  | createScope document scope =>
      by_cases outside : scope.kind = .global
      · rw [Operation.effect, Registry.createScope,
          ScopeTree.create_eq_error_of_global outside] at accepted
        cases accepted
      · rcases consistent.createScope document outside with ⟨change, created, kept⟩
        rw [Operation.effect, created] at accepted
        cases accepted
        exact kept
  | destroyScope document scopeId =>
      cases accepted
      exact consistent.destroyScope document scopeId
  | enterScope document scopeId =>
      cases accepted
      exact consistent.enterScope document scopeId
  | exitScope document scopeId =>
      cases accepted
      exact consistent.exitScope document scopeId
  | clearDocument document =>
      cases accepted
      exact consistent.clearDocument document

/-- Every registry that some run comes to is consistent in every document. -/
theorem Reachable.consistent (reachable : registry.Reachable) : registry.Consistent := by
  rcases reachable with ⟨tasks, reached⟩
  exact reached.registry_induction consistent_empty fun operation holds accepted =>
    holds.effect operation accepted

end LuauNodes.Registry
