import LuauNodes.Proofs.Registry.Locality

/-!
# Tidiness of a document

A registry keeps nothing for a document that holds nothing: no empty list of
symbols or scopes and no empty stack, and only stored scopes are active.  Two
registries that hold nothing of a document and the same of all others are
therefore equal.
-/

namespace LuauNodes

open OrderedMap

/-! ## Symbol tables -/

namespace SymbolTable

/-- A document without symbols is not kept. -/
def TidyAt (table : SymbolTable) (document : String) : Prop :=
  ∀ symbols, table.documents.get? document = some symbols → symbols.isEmpty = false

variable {table : SymbolTable} {document : String}

theorem tidyAt_setEntries (table : SymbolTable) (document : String) (symbols : SymbolEntries) :
    (table.setEntries document symbols).TidyAt document := by
  intro kept found
  rw [get?_setEntries] at found
  split at found
  · cases found
  · rename_i inhabited
    cases found
    exact Bool.eq_false_iff.mpr inhabited

theorem TidyAt.removeEach
    (tidy : table.TidyAt document)
    (keys : List SymbolKey) :
    (table.removeEach document keys).2.TidyAt document := by
  induction keys generalizing table with
  | nil => exact tidy
  | cons key rest ih => exact ih (tidyAt_setEntries _ _ _)

theorem TidyAt.get?_eq_none
    (tidy : table.TidyAt document)
    (bare : table.list document = []) :
    table.documents.get? document = none := by
  cases found : table.documents.get? document with
  | none => rfl
  | some symbols =>
      have kept : table.entries document = symbols := by rw [entries, getD, found, Option.getD_some]
      have inhabited := tidy symbols found
      rw [list, kept] at bare
      rw [OrderedMap.isEmpty, List.map_eq_nil_iff.mp bare] at inhabited
      cases inhabited

end SymbolTable

/-! ## Scope trees -/

namespace ScopeTree

/-- A document without scopes and a stack without scopes are not kept. -/
structure TidyAt (tree : ScopeTree) (document : String) : Prop where
  scopes : ∀ scopes, tree.scopes.get? document = some scopes → scopes.isEmpty = false
  active : ∀ stack, tree.active.get? document = some stack → stack.isEmpty = false

/-- Only stored scopes are active. -/
def ActiveStored (tree : ScopeTree) (document : String) : Prop :=
  ∀ id ∈ tree.stack document, id ∈ (tree.entries document).keys

variable {tree : ScopeTree} {document : String}

theorem TidyAt.setEntries
    (tidy : tree.TidyAt document)
    (scopes : ScopeEntries) :
    (tree.setEntries document scopes).TidyAt document := by
  unfold ScopeTree.setEntries
  split
  · exact ⟨by simp, tidy.active⟩
  · rename_i inhabited
    refine ⟨?_, tidy.active⟩
    simp only [get?_insert, if_true, Option.some.injEq]
    rintro _ rfl
    exact Bool.eq_false_iff.mpr inhabited

theorem TidyAt.setStack
    (tidy : tree.TidyAt document)
    (stack : List String) :
    (tree.setStack document stack).TidyAt document := by
  unfold ScopeTree.setStack
  split
  · exact ⟨tidy.scopes, by simp⟩
  · rename_i inhabited
    refine ⟨tidy.scopes, ?_⟩
    simp only [get?_insert, if_true, Option.some.injEq]
    rintro _ rfl
    exact Bool.eq_false_iff.mpr inhabited

theorem TidyAt.setMembers
    (tidy : tree.TidyAt document)
    (scopeId : Option String)
    (names : NameSet) :
    (tree.setMembers document scopeId names).TidyAt document := by
  unfold ScopeTree.setMembers
  split
  · exact tidy
  · exact tidy.setEntries _

theorem TidyAt.foldl_leave
    (tidy : tree.TidyAt document)
    (removed : List String) :
    (removed.foldl (fun rest id => rest.leave document id) tree).TidyAt document := by
  induction removed generalizing tree with
  | nil => exact tidy
  | cons id rest ih => exact ih (tidy.setStack _)

theorem TidyAt.destroy
    (tidy : tree.TidyAt document)
    (id : String) :
    (tree.destroy document id).2.TidyAt document := by
  unfold ScopeTree.destroy
  split
  · exact tidy
  · exact (tidy.setEntries _).foldl_leave _

theorem keys_addChild (scopes : ScopeEntries) (parentId : Option String) (childId : String) :
    (addChild scopes parentId childId).keys = scopes.keys := by
  cases parentId with
  | none => rfl
  | some parent => exact keys_modify scopes parent _

theorem keys_dropChild (scopes : ScopeEntries) (parentId : Option String) (childId : String) :
    (dropChild scopes parentId childId).keys = scopes.keys := by
  cases parentId with
  | none => rfl
  | some parent => exact keys_modify scopes parent _

theorem ActiveStored.setEntries
    (stored : tree.ActiveStored document)
    {scopes : ScopeEntries}
    (wider : ∀ id ∈ (tree.entries document).keys, id ∈ scopes.keys) :
    (tree.setEntries document scopes).ActiveStored document := by
  intro id entered
  rw [stack_setEntries] at entered
  rw [entries_setEntries, if_pos rfl]
  exact wider id (stored id entered)

theorem ActiveStored.setMembers
    (stored : tree.ActiveStored document)
    (scopeId : Option String)
    (names : NameSet) :
    (tree.setMembers document scopeId names).ActiveStored document := by
  unfold ScopeTree.setMembers
  split
  · exact stored
  · refine stored.setEntries fun id kept => ?_
    rwa [keys_modify]

theorem ActiveStored.destroy
    (active : tree.ActiveStored document)
    (id : String) :
    (tree.destroy document id).2.ActiveStored document := by
  cases found : tree.get? document (some id) with
  | none =>
      rw [ScopeTree.destroy, found]
      exact active
  | some scope =>
      intro other entered
      rw [stack_destroy tree document id found, List.mem_filter] at entered
      have kept := active other entered.1
      rw [← keys_dropChild _ scope.parentId id, ← contains_iff_mem_keys, contains] at kept
      rw [entries_destroy tree document id document found, if_pos rfl, ← contains_iff_mem_keys,
        contains, Forest.pruned, get?_foldl_erase, if_neg (by simpa using entered.2)]
      exact kept

end ScopeTree

/-! ## Registries -/

namespace Registry

/-- A document that holds nothing is not kept, and only stored scopes are active. -/
structure TidyAt (registry : Registry) (document : String) : Prop where
  table : ∀ space, (registry.table space).TidyAt document
  scopes : registry.scopes.TidyAt document
  active : registry.scopes.ActiveStored document

variable {registry left right : Registry} {document : String}

theorem TidyAt.of_agreesOn
    (tidy : right.TidyAt document)
    (agree : AgreesOn document left right) :
    left.TidyAt document where
  table space symbols found := tidy.table space symbols ((agree.table space).symm.trans found)
  scopes :=
    ⟨fun scopes found => tidy.scopes.scopes scopes (agree.scopes.scopes.symm.trans found),
      fun stack found => tidy.scopes.active stack (agree.scopes.active.symm.trans found)⟩
  active := by
    unfold ScopeTree.ActiveStored
    rw [agree.scopes.stack, agree.scopes.entries]
    exact tidy.active

theorem TidyAt.setTable
    (tidy : registry.TidyAt document)
    (space : Namespace)
    {table : SymbolTable}
    (tidyTable : table.TidyAt document) :
    (registry.setTable space table).TidyAt document where
  table other := by
    rw [table_setTable]
    split
    · exact tidyTable
    · exact tidy.table other
  scopes := scopes_setTable registry space table ▸ tidy.scopes
  active := scopes_setTable registry space table ▸ tidy.active

theorem TidyAt.withScopes
    (tidy : registry.TidyAt document)
    {tree : ScopeTree}
    (scopes : tree.TidyAt document)
    (active : tree.ActiveStored document) :
    ({ registry with scopes := tree } : Registry).TidyAt document :=
  ⟨fun space => by cases space; exacts [tidy.table .vars, tidy.table .functions], scopes, active⟩

theorem TidyAt.syncMembers
    (tidy : registry.TidyAt document)
    (scopeId : Option String) :
    (registry.syncMembers document scopeId).TidyAt document :=
  tidy.withScopes (tidy.scopes.setMembers scopeId _) (tidy.active.setMembers scopeId _)

theorem TidyAt.declare
    (tidy : registry.TidyAt document)
    (space : Namespace)
    (symbol : Symbol) :
    (registry.declare space document symbol).registry.TidyAt document := by
  unfold Registry.declare
  split
  · exact tidy
  · split
    · exact tidy
    · exact (tidy.setTable space (SymbolTable.tidyAt_setEntries _ _ _)).syncMembers _

theorem TidyAt.revise
    (tidy : registry.TidyAt document)
    (space : Namespace)
    (name : String)
    (scopeId : Option String)
    (fields : Record.Fields) :
    (registry.revise space document name scopeId fields).registry.TidyAt document := by
  unfold Registry.revise SymbolTable.revise
  cases (registry.table space).lookup? document ⟨scopeId, name⟩ with
  | none => exact tidy
  | some current =>
      dsimp only
      cases current.merge (fields.filter fun field => field.1 != "scope_type") with
      | bad faults => exact tidy
      | ok symbol => exact tidy.setTable space (SymbolTable.tidyAt_setEntries _ _ _)

theorem TidyAt.remove
    (tidy : registry.TidyAt document)
    (space : Namespace)
    (name : String)
    (scopeId : Option String) :
    (registry.remove space document name scopeId).registry.TidyAt document := by
  unfold Registry.remove
  dsimp only
  split
  · exact tidy
  · exact (tidy.setTable space (SymbolTable.tidyAt_setEntries _ _ _)).syncMembers _

theorem TidyAt.clearSymbols
    (tidy : registry.TidyAt document)
    (space : Namespace) :
    (registry.clearSymbols space document).registry.TidyAt document := by
  have synced : ∀ (touched : List (Option String)) {registry : Registry},
      registry.TidyAt document →
      (touched.foldl (fun rest scopeId => rest.syncMembers document scopeId)
        registry).TidyAt document := by
    intro touched
    induction touched with
    | nil => exact fun tidy => tidy
    | cons scopeId rest ih => exact fun tidy => ih (tidy.syncMembers scopeId)
  exact synced _ (tidy.setTable space (SymbolTable.tidyAt_setEntries _ _ _))

/-- A request for a scope is refused, or writes scopes under the former names and more. -/
theorem exists_setEntries_of_createScope
    {scope : Scope}
    {change : Change (Option Scope)}
    (created : registry.createScope document scope = .ok change) :
    change.registry = registry ∨ ∃ scopes : ScopeEntries,
      (∀ id ∈ (registry.scopes.entries document).keys, id ∈ scopes.keys) ∧
        change.registry =
          ({ registry with scopes := registry.scopes.setEntries document scopes } :
            Registry).syncMembers document (some scope.id) := by
  unfold Registry.createScope ScopeTree.create at created
  split_ifs at created
  cases refused : registry.scopes.refusal? document scope with
  | error fault => simp [refused] at created
  | ok refusal =>
      cases refusal with
      | some reason =>
          simp only [refused] at created
          cases created
          exact Or.inl rfl
      | none =>
          cases found : registry.scopes.get? document (some scope.id) with
          | none =>
              simp only [refused, found] at created
              cases created
              refine Or.inr ⟨_, fun id kept => ?_, rfl⟩
              rw [ScopeTree.keys_addChild, keys_insert]
              split
              · exact kept
              · exact List.mem_append_left _ kept
          | some stored =>
              simp only [refused, found] at created
              cases created
              refine Or.inr ⟨_, fun id kept => ?_, rfl⟩
              rwa [ScopeTree.keys_addChild, keys_modify, ScopeTree.keys_dropChild]

theorem TidyAt.createScope
    (tidy : registry.TidyAt document)
    {scope : Scope}
    {change : Change (Option Scope)}
    (created : registry.createScope document scope = .ok change) :
    change.registry.TidyAt document := by
  rcases exists_setEntries_of_createScope created with same | ⟨scopes, wider, same⟩
  · exact same ▸ tidy
  · rw [same]
    exact (tidy.withScopes (tidy.scopes.setEntries scopes)
      (tidy.active.setEntries wider)).syncMembers _

theorem TidyAt.foldl_dropOwned
    {change : Change (List String)}
    (tidy : change.registry.TidyAt document)
    (removed : List String) :
    (removed.foldl (dropOwned document) change).registry.TidyAt document := by
  induction removed generalizing change with
  | nil => exact tidy
  | cons id rest ih =>
      have first := tidy.setTable .vars ((tidy.table .vars).removeEach
        ((change.registry.table .vars).memberKeys document (some id)))
      exact ih (first.setTable .functions ((first.table .functions).removeEach _))

theorem TidyAt.destroyScope
    (tidy : registry.TidyAt document)
    (id : String) :
    (registry.destroyScope document id).registry.TidyAt document := by
  cases found : registry.scopes.get? document (some id) with
  | none =>
      rw [destroyScope_of_missing found]
      exact tidy
  | some scope =>
      have felled : (registry.felling document id).registry.TidyAt document :=
        tidy.withScopes (tidy.scopes.destroy id) (tidy.active.destroy id)
      rw [destroyScope_eq found]
      exact felled.foldl_dropOwned _

theorem TidyAt.enterScope
    (tidy : registry.TidyAt document)
    (scopeId : Option String) :
    (registry.enterScope document scopeId).registry.TidyAt document := by
  unfold Registry.enterScope
  split
  · rename_i inner present
    refine tidy.withScopes (tidy.scopes.setStack _) fun id entered => ?_
    rw [ScopeTree.enter, ScopeTree.stack_setStack, if_pos rfl, List.mem_append,
      List.mem_filter, List.mem_singleton] at entered
    rw [ScopeTree.entries_enter]
    rcases entered with ⟨former, -⟩ | rfl
    · exact tidy.active id former
    · exact (contains_iff_mem_keys _ _).mp present
  · exact tidy

theorem TidyAt.exitScope
    (tidy : registry.TidyAt document)
    (id : String) :
    (registry.exitScope document id).registry.TidyAt document := by
  unfold Registry.exitScope
  split
  · refine tidy.withScopes (tidy.scopes.setStack _) fun other entered => ?_
    rw [ScopeTree.leave, ScopeTree.stack_setStack, if_pos rfl, List.mem_filter] at entered
    rw [ScopeTree.entries_leave]
    exact tidy.active other entered.1
  · exact tidy

theorem TidyAt.clearDocument
    (tidy : registry.TidyAt document) :
    (registry.clearDocument document).registry.TidyAt document where
  table space := by
    cases space with
    | vars => exact SymbolTable.tidyAt_setEntries registry.vars document ∅
    | functions => exact SymbolTable.tidyAt_setEntries registry.functions document ∅
  scopes := by
    show ((registry.scopes.setEntries document ∅).setStack document []).TidyAt document
    exact (tidy.scopes.setEntries ∅).setStack []
  active := by
    intro id entered
    rw [Registry.clearDocument, ScopeTree.clear, ScopeTree.stack_setStack, if_pos rfl] at entered
    cases entered

end Registry

/-- The document that an operation is about. -/
def Operation.document : Operation → String
  | declare _ document _ | revise _ document _ _ _ | remove _ document _ _
  | clearSymbols _ document | createScope document _ | destroyScope document _
  | enterScope document _ | exitScope document _ | clearDocument document => document

namespace Registry

variable {registry left right after : Registry} {document : String} {events : List Event}

theorem without_of_effect
    (operation : Operation)
    (accepted : operation.effect registry = .ok (after, events)) :
    after.without operation.document = registry.without operation.document := by
  cases operation with
  | createScope document scope =>
      rw [Operation.effect] at accepted
      cases created : registry.createScope document scope with
      | error fault => simp [created, Except.map] at accepted
      | ok change =>
          rw [created] at accepted
          cases accepted
          exact (changesOnly_createScope created).elsewhere
  | declare space document symbol =>
      cases accepted
      exact (changesOnly_declare space symbol).elsewhere
  | revise space document name scopeId fields =>
      cases accepted
      exact (changesOnly_revise space name scopeId fields).elsewhere
  | remove space document name scopeId =>
      cases accepted
      exact (changesOnly_remove space name scopeId).elsewhere
  | clearSymbols space document =>
      cases accepted
      exact (changesOnly_clearSymbols space).elsewhere
  | destroyScope document scopeId =>
      cases accepted
      exact (changesOnly_destroyScope scopeId).elsewhere
  | enterScope document scopeId =>
      cases accepted
      exact (changesOnly_enterScope scopeId).elsewhere
  | exitScope document scopeId =>
      cases accepted
      exact (changesOnly_exitScope scopeId).elsewhere
  | clearDocument document =>
      cases accepted
      exact changesOnly_clearDocument.elsewhere

theorem TidyAt.of_effect
    (operation : Operation)
    (tidy : registry.TidyAt operation.document)
    (accepted : operation.effect registry = .ok (after, events)) :
    after.TidyAt operation.document := by
  cases operation with
  | createScope document scope =>
      rw [Operation.effect] at accepted
      cases created : registry.createScope document scope with
      | error fault => simp [created, Except.map] at accepted
      | ok change =>
          rw [created] at accepted
          cases accepted
          exact tidy.createScope created
  | declare space document symbol =>
      cases accepted
      exact tidy.declare space symbol
  | revise space document name scopeId fields =>
      cases accepted
      exact tidy.revise space name scopeId fields
  | remove space document name scopeId =>
      cases accepted
      exact tidy.remove space name scopeId
  | clearSymbols space document =>
      cases accepted
      exact tidy.clearSymbols space
  | destroyScope document scopeId =>
      cases accepted
      exact tidy.destroyScope scopeId
  | enterScope document scopeId =>
      cases accepted
      exact tidy.enterScope scopeId
  | exitScope document scopeId =>
      cases accepted
      exact tidy.exitScope scopeId
  | clearDocument document =>
      cases accepted
      exact tidy.clearDocument

theorem tidyAt_empty (document : String) : (∅ : Registry).TidyAt document where
  table space := by
    intro symbols found
    cases space <;> cases found
  scopes := by
    refine ⟨?_, ?_⟩
    · intro scopes found
      cases found
    · intro stack found
      cases found
  active := by
    intro id entered
    cases entered

/-- Every document of a registry that a run comes to is tidy. -/
theorem Reachable.tidyAt (reachable : registry.Reachable) (document : String) :
    registry.TidyAt document := by
  have kept : ∀ {before after : Registry} {events : List Event} (operation : Operation),
      before.TidyAt document → operation.effect before = .ok (after, events) →
      after.TidyAt document := by
    intro before after events operation tidy accepted
    by_cases here : operation.document = document
    · subst here
      exact tidy.of_effect operation accepted
    · exact tidy.of_agreesOn (agreesOn_of_without here (without_of_effect operation accepted))
  obtain ⟨tasks, reached⟩ := reachable
  exact reached.registry_induction (tidyAt_empty document) kept

/-! ## Documents that hold nothing -/

/-- A document holds no symbol and no scope. -/
structure Bare (registry : Registry) (document : String) : Prop where
  symbols : ∀ space, (registry.table space).list document = []
  scopes : registry.scopes.list document = []

theorem TidyAt.stack_eq_nil
    (tidy : registry.TidyAt document)
    (bare : registry.Bare document) :
    registry.scopes.stack document = [] := by
  refine List.eq_nil_iff_forall_not_mem.mpr fun id entered => ?_
  have stored := tidy.active id entered
  rw [OrderedMap.keys, List.map_eq_nil_iff.mp bare.scopes] at stored
  cases stored

theorem TidyAt.active_get?_eq_none
    (tidy : registry.TidyAt document)
    (inactive : registry.scopes.stack document = []) :
    registry.scopes.active.get? document = none := by
  cases found : registry.scopes.active.get? document with
  | none => rfl
  | some stack =>
      have entered : registry.scopes.stack document = stack := by
        rw [ScopeTree.stack, getD, found, Option.getD_some]
      have inhabited := tidy.scopes.active stack found
      rw [← entered, inactive] at inhabited
      cases inhabited

theorem TidyAt.without_eq_self
    (tidy : registry.TidyAt document)
    (bare : registry.Bare document) :
    registry.without document = registry := by
  have tables : ∀ space, (registry.table space).documents.erase document =
      (registry.table space).documents :=
    fun space => erase_eq_self ((tidy.table space).get?_eq_none (bare.symbols space))
  have scopes : registry.scopes.scopes.get? document = none := by
    cases found : registry.scopes.scopes.get? document with
    | none => rfl
    | some kept =>
        have stored : registry.scopes.entries document = kept := by
          rw [ScopeTree.entries, getD, found, Option.getD_some]
        have inhabited := tidy.scopes.scopes kept found
        have none := bare.scopes
        rw [ScopeTree.list, stored] at none
        rw [OrderedMap.isEmpty, List.map_eq_nil_iff.mp none] at inhabited
        cases inhabited
  have active := tidy.active_get?_eq_none (tidy.stack_eq_nil bare)
  have vars : registry.vars.without document = registry.vars :=
    congrArg SymbolTable.mk (tables .vars)
  have functions : registry.functions.without document = registry.functions :=
    congrArg SymbolTable.mk (tables .functions)
  have tree : registry.scopes.without document = registry.scopes :=
    congrArg₂ ScopeTree.mk (erase_eq_self scopes) (erase_eq_self active)
  unfold without
  rw [vars, functions, tree]

/-- Where no scope of a document is active, the active scopes are those of the others. -/
theorem active_eq_of_inactive
    {left right : Registry}
    (leftTidy : left.TidyAt document)
    (leftInactive : left.scopes.stack document = [])
    (rightTidy : right.TidyAt document)
    (rightInactive : right.scopes.stack document = [])
    (elsewhere : left.without document = right.without document) :
    left.scopes.active = right.scopes.active := by
  have others : left.scopes.active.erase document = right.scopes.active.erase document :=
    congrArg (fun registry : Registry => registry.scopes.active) elsewhere
  rw [erase_eq_self (leftTidy.active_get?_eq_none leftInactive),
    erase_eq_self (rightTidy.active_get?_eq_none rightInactive)] at others
  exact others

/-- Two registries that hold nothing of a document are told apart by the others. -/
theorem eq_of_bare
    {left right : Registry}
    (leftTidy : left.TidyAt document)
    (leftBare : left.Bare document)
    (rightTidy : right.TidyAt document)
    (rightBare : right.Bare document)
    (elsewhere : left.without document = right.without document) :
    left = right := by
  rw [← leftTidy.without_eq_self leftBare, elsewhere, rightTidy.without_eq_self rightBare]

end Registry

end LuauNodes
