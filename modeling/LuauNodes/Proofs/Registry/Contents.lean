import LuauNodes.Proofs.Registry.Forest
import LuauNodes.Registry.Basic

/-!
# The contents of documents

What a registry holds in a document, and what the writes to trees and tables
make of it.  A write to one document leaves what every other document holds.
-/

namespace LuauNodes

open OrderedMap

/-! ## Symbol tables -/

namespace SymbolTable

theorem entries_setEntries
    (table : SymbolTable)
    (document other : String)
    (entries : SymbolEntries) :
    (table.setEntries document entries).entries other =
      if document = other then entries else table.entries other := by
  unfold setEntries
  split
  · rename_i bare
    rw [SymbolTable.entries, getD, get?_erase, eq_empty_of_isEmpty bare]
    split <;> rfl
  · rw [SymbolTable.entries, getD, get?_insert]
    split <;> rfl

theorem entries_remove
    (table : SymbolTable)
    (document other : String)
    (key : SymbolKey) :
    (table.remove document key).entries other =
      if document = other then (table.entries document).erase key else table.entries other :=
  entries_setEntries table document other _

theorem entries_clear (table : SymbolTable) (document other : String) :
    (table.clear document).entries other =
      if document = other then ∅ else table.entries other :=
  entries_setEntries table document other ∅

theorem entries_removeEach
    (table : SymbolTable)
    (document other : String)
    (keys : List SymbolKey) :
    (table.removeEach document keys).2.entries other =
      if document = other then keys.foldl erase (table.entries document)
      else table.entries other := by
  induction keys generalizing table with
  | nil =>
      rw [removeEach]
      split
      · rename_i same
        rw [same, List.foldl_nil]
      · rfl
  | cons key rest ih =>
      rw [removeEach]
      show ((table.remove document key).removeEach document rest).2.entries other = _
      rw [ih, entries_remove, entries_remove, if_pos rfl, List.foldl_cons]
      split <;> rfl

/-- Where symbols sit at their own keys, a scope has the keys that name it. -/
theorem mem_memberKeys_iff
    {table : SymbolTable}
    {document : String}
    (distinct : (table.entries document).Distinct)
    (keyed : (table.entries document).Everywhere fun key symbol => symbol.key = key)
    (scopeId : Option String)
    (key : SymbolKey) :
    key ∈ table.memberKeys document scopeId ↔
      ((table.entries document).get? key).isSome = true ∧ key.scopeId = scopeId := by
  rw [memberKeys, List.mem_map, Option.isSome_iff_exists]
  constructor
  · rintro ⟨symbol, listed, rfl⟩
    obtain ⟨member, owner⟩ := List.mem_filter.mp listed
    obtain ⟨key, found⟩ := (distinct.mem_values_iff symbol).mp member
    refine ⟨⟨symbol, ?_⟩, beq_iff_eq.mp owner⟩
    rw [keyed key symbol found]
    exact found
  · rintro ⟨⟨symbol, found⟩, owner⟩
    have own := keyed key symbol found
    refine ⟨symbol, List.mem_filter.mpr ⟨mem_values_of_get?_eq_some found, ?_⟩, own⟩
    rw [beq_iff_eq, ← owner, ← own]
    rfl

/-- Erasing the keys of a scope's symbols empties the keys that name the scope. -/
theorem get?_foldl_erase_memberKeys
    {table : SymbolTable}
    {document : String}
    (distinct : (table.entries document).Distinct)
    (keyed : (table.entries document).Everywhere fun key symbol => symbol.key = key)
    (scopeId : Option String)
    (key : SymbolKey) :
    ((table.memberKeys document scopeId).foldl erase (table.entries document)).get? key =
      if key.scopeId = scopeId then none else (table.entries document).get? key := by
  have listed := mem_memberKeys_iff distinct keyed scopeId key
  rw [get?_foldl_erase]
  by_cases owner : key.scopeId = scopeId
  · rw [if_pos owner]
    split
    · rfl
    · rename_i absent
      rw [listed, not_and'] at absent
      exact Option.not_isSome_iff_eq_none.mp (absent owner)
  · rw [if_neg owner, if_neg fun member => owner (listed.mp member).2]

/-- The symbols of every document but one. -/
def without (table : SymbolTable) (document : String) : SymbolTable :=
  ⟨table.documents.erase document⟩

@[simp]
theorem without_setEntries (table : SymbolTable) (document : String) (entries : SymbolEntries) :
    (table.setEntries document entries).without document = table.without document := by
  unfold setEntries
  split <;> simp [without]

theorem without_removeEach (table : SymbolTable) (document : String) (keys : List SymbolKey) :
    (table.removeEach document keys).2.without document = table.without document := by
  induction keys generalizing table with
  | nil => rfl
  | cons key rest ih =>
      rw [removeEach]
      exact (ih (table.remove document key)).trans (without_setEntries table document _)

end SymbolTable

/-! ## Scope trees -/

namespace ScopeTree

theorem entries_setEntries
    (tree : ScopeTree)
    (document other : String)
    (entries : ScopeEntries) :
    (tree.setEntries document entries).entries other =
      if document = other then entries else tree.entries other := by
  unfold setEntries
  split
  · rename_i bare
    rw [ScopeTree.entries, getD, get?_erase, eq_empty_of_isEmpty bare]
    split <;> rfl
  · rw [ScopeTree.entries, getD, get?_insert]
    split <;> rfl

theorem active_setEntries (tree : ScopeTree) (document : String) (entries : ScopeEntries) :
    (tree.setEntries document entries).active = tree.active := by
  unfold setEntries
  split <;> rfl

theorem stack_setEntries
    (tree : ScopeTree)
    (document other : String)
    (entries : ScopeEntries) :
    (tree.setEntries document entries).stack other = tree.stack other :=
  congrArg (OrderedMap.getD · other []) (tree.active_setEntries document entries)

theorem entries_setStack
    (tree : ScopeTree)
    (document other : String)
    (stack : List String) :
    (tree.setStack document stack).entries other = tree.entries other := by
  unfold setStack
  split <;> rfl

theorem stack_setStack
    (tree : ScopeTree)
    (document other : String)
    (stack : List String) :
    (tree.setStack document stack).stack other =
      if document = other then stack else tree.stack other := by
  unfold setStack
  split
  · rename_i bare
    rw [ScopeTree.stack, getD, get?_erase, List.isEmpty_iff.mp bare]
    split <;> rfl
  · rw [ScopeTree.stack, getD, get?_insert]
    split <;> rfl

theorem entries_leave (tree : ScopeTree) (document id other : String) :
    (tree.leave document id).entries other = tree.entries other :=
  entries_setStack tree document other _

theorem entries_foldl_leave
    (removed : List String)
    (tree : ScopeTree)
    (document other : String) :
    (removed.foldl (fun rest id => rest.leave document id) tree).entries other =
      tree.entries other := by
  induction removed generalizing tree with
  | nil => rfl
  | cons id rest ih => rw [List.foldl_cons, ih, entries_leave]

/-- Taking some scopes off the stack leaves the others in their order. -/
theorem stack_foldl_leave
    (removed : List String)
    (tree : ScopeTree)
    (document : String) :
    (removed.foldl (fun rest id => rest.leave document id) tree).stack document =
      (tree.stack document).filter (· ∉ removed) := by
  induction removed generalizing tree with
  | nil => exact (List.filter_eq_self.mpr (by simp)).symm
  | cons id rest ih =>
      rw [List.foldl_cons, ih, leave, stack_setStack, if_pos rfl, List.filter_filter]
      refine List.filter_congr fun other _ => ?_
      simp [Bool.and_comm]

theorem entries_enter (tree : ScopeTree) (document id other : String) :
    (tree.enter document id).entries other = tree.entries other :=
  entries_setStack tree document other _

theorem entries_clear (tree : ScopeTree) (document other : String) :
    (tree.clear document).entries other =
      if document = other then ∅ else tree.entries other := by
  rw [clear, entries_setStack, entries_setEntries]

theorem entries_plant
    (tree : ScopeTree)
    (document other : String)
    (requested : Scope) :
    (tree.plant document requested).entries other =
      if document = other then
        addChild (Forest.planted (tree.entries document) requested) requested.parentId requested.id
      else tree.entries other :=
  entries_setEntries tree document other _

theorem entries_move
    (tree : ScopeTree)
    (document other : String)
    (stored requested : Scope) :
    (tree.move document stored requested).entries other =
      if document = other then
        addChild (Forest.uprooted (tree.entries document) stored requested)
          requested.parentId stored.id
      else tree.entries other :=
  entries_setEntries tree document other _

/-- The identifiers that go when a scope is destroyed, innermost first. -/
def doomed (tree : ScopeTree) (document id : String) : List String :=
  (tree.descendants document id).reverse ++ [id]

theorem entries_destroy
    (tree : ScopeTree)
    (document id other : String)
    {scope : Scope}
    (stored : tree.get? document (some id) = some scope) :
    (tree.destroy document id).2.entries other =
      if document = other then
        Forest.pruned (tree.entries document) scope.parentId id (tree.doomed document id)
      else tree.entries other := by
  rw [destroy, stored]
  show ScopeTree.entries (List.foldl _ _ _) other = _
  rw [entries_foldl_leave, entries_setEntries]
  rfl

theorem fst_destroy
    (tree : ScopeTree)
    (document id : String)
    {scope : Scope}
    (stored : tree.get? document (some id) = some scope) :
    (tree.destroy document id).1 = tree.doomed document id := by
  rw [destroy, stored]
  rfl

/-- The scopes and the entered scopes of every document but one. -/
def without (tree : ScopeTree) (document : String) : ScopeTree :=
  ⟨tree.scopes.erase document, tree.active.erase document⟩

@[simp]
theorem without_setEntries (tree : ScopeTree) (document : String) (entries : ScopeEntries) :
    (tree.setEntries document entries).without document = tree.without document := by
  unfold setEntries
  split <;> simp [without]

@[simp]
theorem without_setStack (tree : ScopeTree) (document : String) (stack : List String) :
    (tree.setStack document stack).without document = tree.without document := by
  unfold setStack
  split <;> simp [without]

theorem without_foldl_leave (removed : List String) (tree : ScopeTree) (document : String) :
    (removed.foldl (fun rest id => rest.leave document id) tree).without document =
      tree.without document := by
  induction removed generalizing tree with
  | nil => rfl
  | cons id rest ih => rw [List.foldl_cons, ih, leave, without_setStack]

theorem stack_destroy
    (tree : ScopeTree)
    (document id : String)
    {scope : Scope}
    (stored : tree.get? document (some id) = some scope) :
    (tree.destroy document id).2.stack document =
      (tree.stack document).filter (· ∉ tree.doomed document id) := by
  rw [destroy, stored]
  show ScopeTree.stack (List.foldl _ _ _) document = _
  rw [stack_foldl_leave, stack_setEntries]
  rfl

theorem without_destroy (tree : ScopeTree) (document id : String) :
    (tree.destroy document id).2.without document = tree.without document := by
  unfold destroy
  split
  · rfl
  · show ScopeTree.without (List.foldl _ _ _) document = _
    rw [without_foldl_leave, without_setEntries]

end ScopeTree

/-- What a registry holds of every document but one. -/
def Registry.without (registry : Registry) (document : String) : Registry :=
  ⟨registry.vars.without document, registry.functions.without document,
    registry.scopes.without document⟩

end LuauNodes
