import LuauNodes.Proofs.Registry.Separation

/-!
# Changes of one document

An operation is a request to one document: it tells events of that document only,
and leaves what the registry holds of every other one.
-/

namespace LuauNodes.Registry

variable {α : Type} {registry : Registry} {document : String} {left right : Registry}

/-! ## Parts of a registry -/

theorem without_setTable
    (registry : Registry)
    (space : Namespace)
    {table : SymbolTable}
    (same : table.without document = (registry.table space).without document) :
    (registry.setTable space table).without document = registry.without document := by
  cases space with
  | vars => exact congrArg (Registry.mk · _ _) same
  | functions => exact congrArg (Registry.mk _ · _) same

theorem without_setSymbols
    (registry : Registry)
    (space : Namespace)
    (document : String)
    (symbols : SymbolEntries) :
    (registry.setTable space ((registry.table space).setEntries document symbols)).without
        document =
      registry.without document :=
  without_setTable registry space (SymbolTable.without_setEntries _ _ _)

theorem without_withScopes
    (registry : Registry)
    {tree : ScopeTree}
    (same : tree.without document = registry.scopes.without document) :
    ({ registry with scopes := tree } : Registry).without document = registry.without document :=
  congrArg (Registry.mk _ _) same

theorem without_syncMembers
    (registry : Registry)
    (document : String)
    (scopeId : Option String) :
    (registry.syncMembers document scopeId).without document = registry.without document := by
  apply without_withScopes
  unfold ScopeTree.setMembers
  split
  · rfl
  · exact ScopeTree.without_setEntries _ _ _

/-! ## Operations -/

/-- A change of a document that leaves all others as they are, and tells of that document only. -/
structure ChangesOnly (document : String) (before : Registry) (change : Change α) : Prop where
  elsewhere : change.registry.without document = before.without document
  events : ∀ event ∈ change.events, event.document = document

theorem changesOnly_unchanged (result : α) (notices : List Notice) :
    ChangesOnly document registry (registry.unchanged result notices) :=
  ⟨rfl, by simp [unchanged]⟩

theorem changesOnly_declare (space : Namespace) (symbol : Symbol) :
    ChangesOnly document registry (registry.declare space document symbol) := by
  unfold declare
  split
  · exact changesOnly_unchanged _ _
  · split
    · exact changesOnly_unchanged _ _
    · refine ⟨?_, by simp⟩
      exact (without_syncMembers _ _ _).trans
        (without_setSymbols registry space _ _)

theorem changesOnly_revise
    (space : Namespace)
    (name : String)
    (scopeId : Option String)
    (fields : Record.Fields) :
    ChangesOnly document registry (registry.revise space document name scopeId fields) := by
  unfold revise SymbolTable.revise
  cases (registry.table space).lookup? document ⟨scopeId, name⟩ with
  | none => exact changesOnly_unchanged _ _
  | some current =>
      dsimp only
      cases current.merge (fields.filter fun field => field.1 != "scope_type") with
      | bad faults => exact changesOnly_unchanged _ _
      | ok symbol =>
          exact ⟨without_setSymbols registry space _ _, by simp⟩

theorem changesOnly_remove (space : Namespace) (name : String) (scopeId : Option String) :
    ChangesOnly document registry (registry.remove space document name scopeId) := by
  unfold remove
  dsimp only
  split
  · exact changesOnly_unchanged _ _
  · refine ⟨?_, by simp⟩
    exact (without_syncMembers _ _ _).trans
      (without_setSymbols registry space _ _)

theorem changesOnly_clearSymbols (space : Namespace) :
    ChangesOnly document registry (registry.clearSymbols space document) where
  elsewhere := by
    have synced : ∀ (touched : List (Option String)) (registry : Registry),
        (touched.foldl (fun rest scopeId => rest.syncMembers document scopeId) registry).without
          document = registry.without document := by
      intro touched
      induction touched with
      | nil => exact fun _ => rfl
      | cons scopeId rest ih =>
          exact fun registry => (ih _).trans (without_syncMembers registry document scopeId)
    exact (synced _ _).trans
      (without_setSymbols registry space _ _)
  events := by simp [clearSymbols]

theorem changesOnly_settleScope
    {tree : ScopeTree}
    (same : tree.without document = registry.scopes.without document)
    (scopeId : String)
    (notice : Notice) :
    ChangesOnly document registry
      ({ registry with scopes := tree }.settleScope document scopeId notice) :=
  ⟨(without_syncMembers _ _ _).trans (without_withScopes registry same), by simp [settleScope]⟩

theorem changesOnly_createScope
    {scope : Scope}
    {change : Change (Option Scope)}
    (created : registry.createScope document scope = .ok change) :
    ChangesOnly document registry change := by
  unfold createScope at created
  split at created
  · cases created
  · cases created
    exact changesOnly_unchanged _ _
  · rename_i made
    cases created
    exact changesOnly_settleScope (ScopeTree.without_create made rfl) _ _
  · rename_i made
    cases created
    exact changesOnly_settleScope (ScopeTree.without_create made rfl) _ _

theorem changesOnly_dropMembers (space : Namespace) (scopeId : String) :
    ChangesOnly document registry (dropMembers space document scopeId registry) where
  elsewhere := without_setTable registry space (SymbolTable.without_removeEach _ _ _)
  events := by
    intro event told
    obtain ⟨key, -, rfl⟩ := List.mem_map.mp told
    rfl

theorem ChangesOnly.followedBy
    {first : Change α}
    (only : ChangesOnly document registry first)
    {next : Registry → Change Unit}
    (nextOnly : ChangesOnly document first.registry (next first.registry)) :
    ChangesOnly document registry (first.followedBy next) :=
  ⟨nextOnly.elsewhere.trans only.elsewhere,
    List.forall_mem_append.mpr ⟨only.events, nextOnly.events⟩⟩

theorem ChangesOnly.foldl_dropOwned
    {first : Change (List String)}
    (only : ChangesOnly document registry first)
    (removed : List String) :
    ChangesOnly document registry (removed.foldl (dropOwned document) first) := by
  induction removed generalizing first with
  | nil => exact only
  | cons id rest ih =>
      exact ih ((only.followedBy (changesOnly_dropMembers .vars id)).followedBy
        (changesOnly_dropMembers .functions id))

theorem changesOnly_destroyScope (scopeId : String) :
    ChangesOnly document registry (registry.destroyScope document scopeId) := by
  cases found : registry.scopes.get? document (some scopeId) with
  | none =>
      rw [destroyScope_of_missing found]
      exact changesOnly_unchanged _ _
  | some scope =>
      have felling : ChangesOnly document registry (registry.felling document scopeId) :=
        ⟨without_withScopes registry (registry.scopes.without_destroy document scopeId),
          by simp [Registry.felling]⟩
      have felled := felling.foldl_dropOwned (registry.scopes.doomed document scopeId)
      rw [destroyScope_eq found]
      exact ⟨felled.elsewhere, List.forall_mem_append.mpr ⟨felled.events, by simp⟩⟩

theorem changesOnly_enterScope (scopeId : Option String) :
    ChangesOnly document registry (registry.enterScope document scopeId) := by
  unfold enterScope
  split
  · exact ⟨without_withScopes registry (ScopeTree.without_setStack _ _ _), by simp⟩
  · exact changesOnly_unchanged _ _

theorem changesOnly_exitScope (scopeId : String) :
    ChangesOnly document registry (registry.exitScope document scopeId) := by
  unfold exitScope
  split
  · exact ⟨without_withScopes registry (ScopeTree.without_setStack _ _ _), by simp⟩
  · exact changesOnly_unchanged _ _

theorem changesOnly_clearDocument :
    ChangesOnly document registry (registry.clearDocument document) where
  elsewhere := by
    unfold clearDocument without ScopeTree.clear SymbolTable.clear
    simp only [SymbolTable.without_setEntries, ScopeTree.without_setEntries,
      ScopeTree.without_setStack]
  events := by simp [clearDocument]

/-! ## What others see of it -/

/-- Registries that hold the same of every document but one agree on the others. -/
theorem agreesOn_of_without
    {other : String}
    (apart : other ≠ document)
    (same : left.without other = right.without other) :
    AgreesOn document left right where
  table space := by
    apply SymbolTable.agreesOn_of_without apart
    cases space with
    | vars => exact congrArg Registry.vars same
    | functions => exact congrArg Registry.functions same
  scopes := ScopeTree.agreesOn_of_without apart (congrArg Registry.scopes same)

/-- A request to one document leaves every other one as it was. -/
theorem ChangesOnly.agreesOn
    {change : Change α}
    {other : String}
    (only : ChangesOnly other registry change)
    (apart : other ≠ document) :
    AgreesOn document change.registry registry :=
  agreesOn_of_without apart only.elsewhere

end LuauNodes.Registry
