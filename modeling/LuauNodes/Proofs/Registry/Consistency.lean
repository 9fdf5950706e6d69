import LuauNodes.Proofs.Registry.Contents

/-!
# Consistency of a document

What the symbols and the scopes of a document owe one another.  The scopes form
a forest.  Every symbol is kept at its own key, its owner is a stored scope, and
it counts as global exactly when it has no owner.  The member names of a scope
are the names of the symbols that it owns; operations write a table first and
bring the member names up to date afterwards, so consistency is stated up to
scopes for which that is still pending.
-/

namespace LuauNodes.Registry

open OrderedMap
open ScopeTree (Forest parentOf? parentOf?_eq_some_iff addChild)

/-- A symbol sits at its own key, its owner is stored, and it is global without an owner only. -/
structure Placed (scopes : ScopeEntries) (key : SymbolKey) (symbol : Symbol) : Prop where
  keyed : symbol.key = key
  owner : ∀ id, symbol.scopeId = some id → ∃ scope, scopes.get? id = some scope
  kind : symbol.scopeKind = .global ↔ symbol.scopeId = none

/-- The symbols of one namespace fit the scopes of their document. -/
structure Owned (scopes : ScopeEntries) (symbols : SymbolEntries) : Prop where
  distinct : symbols.Distinct
  placed : symbols.Everywhere (Placed scopes)

/-- Some names are the names of the symbols that a scope owns in either namespace. -/
def Enrolled (registry : Registry) (document id : String) (names : NameSet) : Prop :=
  ∀ name, name ∈ names ↔
    ∃ space, (((registry.table space).entries document).get? ⟨some id, name⟩).isSome = true

/-- A document is consistent, except that the member names of some scopes may be out of date. -/
structure ConsistentAt
    (registry : Registry)
    (document : String)
    (pending : List (Option String)) : Prop where
  forest : Forest (registry.scopes.entries document)
  owned : ∀ space,
    Owned (registry.scopes.entries document) ((registry.table space).entries document)
  enrolled : ∀ id scope, (registry.scopes.entries document).get? id = some scope →
    some id ∉ pending → Enrolled registry document id scope.memberNames

/-- Every document is consistent. -/
def Consistent (registry : Registry) : Prop :=
  ∀ document, registry.ConsistentAt document []

/-! ## Parts of a registry -/

@[simp]
theorem table_setTable (registry : Registry) (space other : Namespace) (table : SymbolTable) :
    (registry.setTable space table).table other =
      if space = other then table else registry.table other := by
  cases space <;> cases other <;> rfl

@[simp]
theorem scopes_setTable (registry : Registry) (space : Namespace) (table : SymbolTable) :
    (registry.setTable space table).scopes = registry.scopes := by
  cases space <;> rfl

@[simp]
theorem table_syncMembers
    (registry : Registry)
    (document : String)
    (scopeId : Option String)
    (space : Namespace) :
    (registry.syncMembers document scopeId).table space = registry.table space := by
  cases space <;> rfl

/-- Two registries hold the same in a document. -/
structure SameContents (document : String) (left right : Registry) : Prop where
  table : ∀ space,
    (left.table space).entries document = (right.table space).entries document
  scopes : left.scopes.entries document = right.scopes.entries document

theorem SameContents.refl (document : String) (registry : Registry) :
    SameContents document registry registry :=
  ⟨fun _ => rfl, rfl⟩

theorem SameContents.trans
    {document : String}
    {left middle right : Registry}
    (first : SameContents document left middle)
    (second : SameContents document middle right) :
    SameContents document left right :=
  ⟨fun space => (first.table space).trans (second.table space), first.scopes.trans second.scopes⟩

/-- Consistency of a document depends on nothing but its contents. -/
theorem ConsistentAt.transfer
    {before after : Registry}
    {document : String}
    {pending : List (Option String)}
    (consistent : before.ConsistentAt document pending)
    (same : SameContents document after before) :
    after.ConsistentAt document pending := by
  refine ⟨?_, ?_, ?_⟩
  · rw [same.scopes]
    exact consistent.forest
  · intro space
    rw [same.scopes, same.table]
    exact consistent.owned space
  · intro id scope stored settled name
    rw [same.scopes] at stored
    rw [consistent.enrolled id scope stored settled name]
    exact exists_congr fun space => by rw [same.table]

theorem consistent_empty : Consistent ∅ := by
  intro document
  refine ⟨Forest.empty, ?_, ?_⟩
  · intro space
    cases space <;> exact ⟨distinct_empty, everywhere_empty⟩
  · intro id scope stored
    cases stored

/-! ## Symbols of a scope -/

section Members

variable {registry : Registry} {document : String} {scopes : ScopeEntries}

theorem Owned.mem_listIn_iff
    {table : SymbolTable}
    (owned : Owned scopes (table.entries document))
    (scopeId : Option String)
    (symbol : Symbol) :
    symbol ∈ table.listIn document scopeId ↔
      (table.entries document).get? symbol.key = some symbol ∧ symbol.scopeId = scopeId := by
  rw [SymbolTable.listIn, List.mem_filter, SymbolTable.list, owned.distinct.mem_values_iff,
    beq_iff_eq]
  refine and_congr_left fun _ => ?_
  constructor
  · rintro ⟨key, found⟩
    rw [(owned.placed key symbol found).keyed]
    exact found
  · intro found
    exact ⟨symbol.key, found⟩

/-- A scope owns a symbol of a name exactly where the key of both is present. -/
theorem Owned.exists_listIn_iff
    {table : SymbolTable}
    (owned : Owned scopes (table.entries document))
    (scopeId : Option String)
    (name : String) :
    (∃ symbol ∈ table.listIn document scopeId, symbol.name = name) ↔
      ((table.entries document).get? ⟨scopeId, name⟩).isSome = true := by
  rw [Option.isSome_iff_exists]
  constructor
  · rintro ⟨symbol, member, rfl⟩
    rcases (owned.mem_listIn_iff scopeId symbol).mp member with ⟨found, rfl⟩
    exact ⟨symbol, found⟩
  · rintro ⟨symbol, found⟩
    have keyed := (owned.placed _ symbol found).keyed
    have parts : symbol.scopeId = scopeId ∧ symbol.name = name := by
      simpa [Symbol.key] using keyed
    refine ⟨symbol, (owned.mem_listIn_iff scopeId symbol).mpr ⟨?_, parts.1⟩, parts.2⟩
    rw [keyed]
    exact found

theorem enrolled_memberNames
    (owned : ∀ space, Owned scopes ((registry.table space).entries document))
    (id : String) :
    Enrolled registry document id (registry.memberNames document (some id)) := by
  intro name
  rw [memberNames, NameSet.mem_ofList, List.mem_map]
  constructor
  · rintro ⟨symbol, member, named⟩
    rcases List.mem_append.mp member with inVars | inFunctions
    · exact ⟨.vars, ((owned .vars).exists_listIn_iff _ _).mp ⟨symbol, inVars, named⟩⟩
    · exact ⟨.functions, ((owned .functions).exists_listIn_iff _ _).mp ⟨symbol, inFunctions, named⟩⟩
  · rintro ⟨space, present⟩
    rcases ((owned space).exists_listIn_iff _ _).mpr present with ⟨symbol, member, named⟩
    cases space with
    | vars => exact ⟨symbol, List.mem_append_left _ member, named⟩
    | functions => exact ⟨symbol, List.mem_append_right _ member, named⟩

end Members

end LuauNodes.Registry
