import LuauNodes.Proofs.Registry.ScopeSteps

/-!
# Ownership of symbols

What a registry promises about the symbols and the scopes of a document: a
symbol is found by its own scope and name, its scope exists, it is global when
it has none, and a scope knows the names of all its symbols and no others.  The
promise holds throughout every run, also while listeners are called.
-/

namespace LuauNodes

/-- The symbols and the scopes of a document agree about who owns what. -/
structure Registry.Owns (registry : Registry) (document : String) : Prop where
  /-- A symbol is kept under its own scope and its own name. -/
  keyed : ∀ space key symbol,
    (key, symbol) ∈ ((registry.table space).entries document).entries →
      key = ⟨symbol.scopeId, symbol.name⟩
  /-- No two symbols are kept under one key. -/
  distinct : ∀ space, ((registry.table space).entries document).Distinct
  /-- The scope of a symbol is stored in the same document. -/
  owner : ∀ space, ∀ symbol ∈ (registry.table space).list document, ∀ id,
    symbol.scopeId = some id → registry.scopes.has document (some id) = true
  /-- A symbol counts as global exactly when it has no scope. -/
  kind : ∀ space, ∀ symbol ∈ (registry.table space).list document,
    (symbol.scopeKind = .global ↔ symbol.scopeId = none)
  /-- The member names of a scope are the names of the symbols that it owns. -/
  members : ∀ scope ∈ registry.scopes.list document, ∀ name,
    (name ∈ scope.memberNames ↔
      ∃ space, ∃ symbol ∈ (registry.table space).list document,
        symbol.scopeId = some scope.id ∧ symbol.name = name)

namespace Registry

variable {registry : Registry} {document : String}

theorem mem_list_iff
    {scopes : ScopeEntries}
    {table : SymbolTable}
    (owned : Owned scopes (table.entries document))
    (symbol : Symbol) :
    symbol ∈ table.list document ↔
      (table.entries document).get? symbol.key = some symbol := by
  have inOwn := owned.mem_listIn_iff symbol.scopeId symbol
  rw [SymbolTable.listIn, List.mem_filter] at inOwn
  simpa using inOwn

/-- A consistent document keeps the promise. -/
theorem ConsistentAt.owns (consistent : registry.ConsistentAt document []) :
    registry.Owns document where
  keyed := by
    intro space key symbol stored
    have owned := consistent.owned space
    have found := (owned.distinct.get?_eq_some_iff key symbol).mpr stored
    exact (owned.placed key symbol found).keyed.symm
  distinct := fun space => (consistent.owned space).distinct
  owner := by
    intro space symbol listed id owner
    have owned := consistent.owned space
    have placed := owned.placed symbol.key symbol ((mem_list_iff owned symbol).mp listed)
    exact (ScopeTree.has_some_eq_true_iff _ document id).mpr (placed.owner id owner)
  kind := by
    intro space symbol listed
    have owned := consistent.owned space
    exact (owned.placed symbol.key symbol ((mem_list_iff owned symbol).mp listed)).kind
  members := by
    intro scope listed name
    rcases (consistent.forest.distinct.mem_values_iff scope).mp listed with ⟨id, stored⟩
    rw [(consistent.forest.proper id scope stored).keyed]
    rw [consistent.enrolled id scope stored List.not_mem_nil name]
    refine exists_congr fun space => ?_
    rw [← (consistent.owned space).exists_listIn_iff]
    simp only [SymbolTable.listIn, List.mem_filter, beq_iff_eq, and_assoc]

end Registry

/-- Throughout every run, also while listeners are called and whatever they ask for, the symbols
and the scopes of every document agree about who owns what. -/
theorem Dispatch.Reachable.ownership
    {dispatch : Dispatch}
    (reached : dispatch.Reachable)
    (document : String) :
    dispatch.registry.Owns document :=
  (reached.registry.consistent document).owns

/-- A function body with a loop in it, and a variable of one name outside and in the loop. -/
def Operation.shadowing : List Operation :=
  [.createScope "main" (.fresh "body" .function none none),
    .createScope "main" (.fresh "loop" .loop (some "body") none),
    .declare .vars "main" (.ofVariable "i" .number),
    .declare .vars "main" { Symbol.ofVariable "i" .string with scopeId := some "loop" }]

theorem Dispatch.ownership_while_shadowing :
    (asking Operation.shadowing).Reachable ∧
      (asking Operation.shadowing).registry.Owns "main" :=
  ⟨reachable_asking Operation.shadowing,
    Dispatch.Reachable.ownership (reachable_asking Operation.shadowing) "main"⟩

end LuauNodes
