import LuauNodes.Proofs.Registry.Tidiness

/-!
# Writes

Every operation on a registry comes down to three kinds of writes: the symbols,
the scopes or the active scopes of one document are replaced.  What no such write
breaks, whatever is written, holds of every registry that some run comes to: for
one, that no document is listed twice.
-/

namespace LuauNodes

open OrderedMap

namespace Registry

variable {Holds : Registry → Prop} {registry after : Registry}

/-- A property that no write to a document breaks. -/
structure KeptByWrites (Holds : Registry → Prop) : Prop where
  table : ∀ registry space document symbols, Holds registry →
    Holds (registry.setTable space ((registry.table space).setEntries document symbols))
  scopes : ∀ registry document scopes, Holds registry →
    Holds { registry with scopes := registry.scopes.setEntries document scopes }
  active : ∀ registry document stack, Holds registry →
    Holds { registry with scopes := registry.scopes.setStack document stack }

theorem setTable_table (registry : Registry) (space : Namespace) :
    registry.setTable space (registry.table space) = registry := by
  cases space <;> rfl

theorem setTable_setTable
    (registry : Registry)
    (space : Namespace)
    (first second : SymbolTable) :
    (registry.setTable space first).setTable space second = registry.setTable space second := by
  cases space <;> rfl

/-- Symbols of one document are removed one after the other. -/
theorem KeptByWrites.removeEach
    (kept : KeptByWrites Holds)
    (holds : Holds registry)
    (space : Namespace)
    (document : String)
    (keys : List SymbolKey) :
    Holds (registry.setTable space ((registry.table space).removeEach document keys).2) := by
  induction keys generalizing registry with
  | nil =>
      rw [SymbolTable.removeEach, setTable_table]
      exact holds
  | cons key rest ih =>
      have first := ih (kept.table registry space document
        (((registry.table space).entries document).erase key) holds)
      rw [table_setTable, if_pos rfl, setTable_setTable] at first
      exact first

theorem KeptByWrites.syncMembers
    (kept : KeptByWrites Holds)
    (holds : Holds registry)
    (document : String)
    (scopeId : Option String) :
    Holds (registry.syncMembers document scopeId) := by
  unfold Registry.syncMembers ScopeTree.setMembers
  split
  · exact holds
  · exact kept.scopes registry document _ holds

theorem KeptByWrites.foldl_syncMembers
    (kept : KeptByWrites Holds)
    (holds : Holds registry)
    (document : String)
    (touched : List (Option String)) :
    Holds (touched.foldl (fun rest scopeId => rest.syncMembers document scopeId) registry) := by
  induction touched generalizing registry with
  | nil => exact holds
  | cons scopeId rest ih => exact ih (kept.syncMembers holds document scopeId)

theorem KeptByWrites.foldl_leave
    (kept : KeptByWrites Holds)
    (holds : Holds registry)
    (document : String)
    (removed : List String) :
    Holds { registry with
      scopes := removed.foldl (fun rest id => rest.leave document id) registry.scopes } := by
  induction removed generalizing registry with
  | nil => exact holds
  | cons id rest ih => exact ih (kept.active registry document _ holds)

theorem KeptByWrites.foldl_dropOwned
    (kept : KeptByWrites Holds)
    {change : Change (List String)}
    (holds : Holds change.registry)
    (document : String)
    (removed : List String) :
    Holds (removed.foldl (dropOwned document) change).registry := by
  induction removed generalizing change with
  | nil => exact holds
  | cons id rest ih =>
      exact ih (kept.removeEach (kept.removeEach holds .vars document _) .functions document _)

theorem KeptByWrites.destroyScope
    (kept : KeptByWrites Holds)
    (holds : Holds registry)
    (document id : String) :
    Holds (registry.destroyScope document id).registry := by
  cases found : registry.scopes.get? document (some id) with
  | none =>
      rw [destroyScope_of_missing found]
      exact holds
  | some scope =>
      rw [destroyScope_eq found]
      refine kept.foldl_dropOwned ?_ document _
      show Holds { registry with scopes := (registry.scopes.destroy document id).2 }
      rw [ScopeTree.destroy, found]
      exact kept.foldl_leave (kept.scopes registry document _ holds) document _

/-- What no write breaks is not broken by any operation. -/
theorem KeptByWrites.of_effect
    (kept : KeptByWrites Holds)
    {events : List Event}
    (operation : Operation)
    (holds : Holds registry)
    (accepted : operation.effect registry = .ok (after, events)) :
    Holds after := by
  cases operation with
  | declare space document symbol =>
      cases accepted
      show Holds (registry.declare space document symbol).registry
      unfold Registry.declare
      split
      · exact holds
      · split
        · exact holds
        · exact kept.syncMembers (kept.table registry space document _ holds) document _
  | revise space document name scopeId fields =>
      cases accepted
      show Holds (registry.revise space document name scopeId fields).registry
      unfold Registry.revise SymbolTable.revise
      cases (registry.table space).lookup? document ⟨scopeId, name⟩ with
      | none => exact holds
      | some current =>
          dsimp only
          cases current.merge (fields.filter fun field => field.1 != "scope_type") with
          | bad faults => exact holds
          | ok symbol => exact kept.table registry space document _ holds
  | remove space document name scopeId =>
      cases accepted
      show Holds (registry.remove space document name scopeId).registry
      unfold Registry.remove
      dsimp only
      split
      · exact holds
      · exact kept.syncMembers (kept.table registry space document _ holds) document _
  | clearSymbols space document =>
      cases accepted
      exact kept.foldl_syncMembers (kept.table registry space document ∅ holds) document _
  | createScope document scope =>
      rw [Operation.effect] at accepted
      cases created : registry.createScope document scope with
      | error fault => simp [created, Except.map] at accepted
      | ok change =>
          rw [created] at accepted
          cases accepted
          rcases exists_setEntries_of_createScope created with same | ⟨scopes, -, same⟩
          · exact same ▸ holds
          · rw [same]
            exact kept.syncMembers (kept.scopes registry document scopes holds) document _
  | destroyScope document id =>
      cases accepted
      exact kept.destroyScope holds document id
  | enterScope document scopeId =>
      cases accepted
      show Holds (registry.enterScope document scopeId).registry
      unfold Registry.enterScope
      split
      · exact kept.active registry document _ holds
      · exact holds
  | exitScope document id =>
      cases accepted
      show Holds (registry.exitScope document id).registry
      unfold Registry.exitScope
      split
      · exact kept.active registry document _ holds
      · exact holds
  | clearDocument document =>
      cases accepted
      have tables := kept.table _ .functions document ∅ (kept.table registry .vars document ∅ holds)
      exact kept.active _ document [] (kept.scopes _ document ∅ tables)

theorem KeptByWrites.of_reachable
    (kept : KeptByWrites Holds)
    (start : Holds ∅)
    (reachable : registry.Reachable) :
    Holds registry := by
  obtain ⟨tasks, reached⟩ := reachable
  exact reached.registry_induction start fun operation holds accepted =>
    kept.of_effect operation holds accepted

/-! ## Documents are listed once -/

/-- No document is listed twice. -/
structure ListsOnce (registry : Registry) : Prop where
  table : ∀ space, (registry.table space).documents.Distinct
  scopes : registry.scopes.scopes.Distinct
  active : registry.scopes.active.Distinct

theorem distinct_setEntries
    {table : SymbolTable}
    (distinct : table.documents.Distinct)
    (document : String)
    (symbols : SymbolEntries) :
    (table.setEntries document symbols).documents.Distinct := by
  unfold SymbolTable.setEntries
  split
  · exact distinct.erase document
  · exact distinct.insert document symbols

theorem keptByWrites_listsOnce : KeptByWrites ListsOnce where
  table := by
    intro registry space document symbols once
    refine ⟨fun other => ?_, ?_, ?_⟩
    · rw [table_setTable]
      split
      · exact distinct_setEntries (once.table space) document symbols
      · exact once.table other
    · exact scopes_setTable registry space _ ▸ once.scopes
    · exact scopes_setTable registry space _ ▸ once.active
  scopes := by
    intro registry document scopes once
    refine ⟨fun space => by cases space; exacts [once.table .vars, once.table .functions], ?_, ?_⟩
    · show (registry.scopes.setEntries document scopes).scopes.Distinct
      unfold ScopeTree.setEntries
      split
      · exact once.scopes.erase document
      · exact once.scopes.insert document scopes
    · show (registry.scopes.setEntries document scopes).active.Distinct
      unfold ScopeTree.setEntries
      split <;> exact once.active
  active := by
    intro registry document stack once
    refine ⟨fun space => by cases space; exacts [once.table .vars, once.table .functions], ?_, ?_⟩
    · show (registry.scopes.setStack document stack).scopes.Distinct
      unfold ScopeTree.setStack
      split <;> exact once.scopes
    · show (registry.scopes.setStack document stack).active.Distinct
      unfold ScopeTree.setStack
      split
      · exact once.active.erase document
      · exact once.active.insert document stack

theorem Reachable.listsOnce (reachable : registry.Reachable) : registry.ListsOnce :=
  keptByWrites_listsOnce.of_reachable
    ⟨fun space => by cases space <;> exact distinct_empty, distinct_empty, distinct_empty⟩ reachable

end Registry

end LuauNodes
