import LuauNodes.Proofs.Registry.ScopeSteps

/-!
# Announcement of changes

What the events of an operation tell of.  Whoever keeps a copy of a document and
looks again at what the events name misses nothing: a key whose symbol changed
has an event of its own or one for its whole namespace, a scope that appeared,
went or moved has an event for the scopes, and where there is no event nothing
changed at all.  What a sequence of changes announces is what its parts announce,
so that a destruction is taken apart scope by scope.
-/

namespace LuauNodes

/-- An event makes a listener look again at the symbol at a key. -/
def Event.TellsOfSymbol
    (event : Event)
    (space : Namespace)
    (document : String)
    (key : SymbolKey) :
    Prop :=
  event.document = document ∧
    (event.kind = .documentCleared ∨
      event.kind = space.eventKind ∧
        (event.name = none ∨ event.name = some key.name ∧ event.scopeId = key.scopeId))

/-- An event makes a listener look again at the scopes of a document. -/
def Event.TellsOfScopes (event : Event) (document : String) : Prop :=
  event.document = document ∧ (event.kind = .scopesChanged ∨ event.kind = .documentCleared)

/-- What a scope is, whose it is, and where it lies. -/
def Scope.placement (scope : Scope) : ScopeKind × Option String × Option String :=
  (scope.kind, scope.ownerNodeId, scope.parentId)

namespace Registry

open OrderedMap

variable {registry before middle after : Registry} {document : String} {events : List Event}

/-- The placement of a scope, if the scope is stored. -/
def placement? (registry : Registry) (document id : String) :
    Option (ScopeKind × Option String × Option String) :=
  (registry.scopes.get? document (some id)).map Scope.placement

/-- Some events announce the change from one registry to another. -/
structure Announced (before after : Registry) (events : List Event) : Prop where
  /-- Every key at which look-up differs is told of. -/
  symbols : ∀ space document key,
    (before.table space).lookup? document key ≠ (after.table space).lookup? document key →
      ∃ event ∈ events, event.TellsOfSymbol space document key
  /-- Where a scope appeared, went or changed its placement, the scopes are told of. -/
  scopes : ∀ document id, before.placement? document id ≠ after.placement? document id →
    ∃ event ∈ events, event.TellsOfScopes document
  /-- Without events there is no change. -/
  silent : events = [] → after = before

theorem Announced.refl (registry : Registry) (events : List Event) :
    Announced registry registry events :=
  ⟨fun _ _ _ differs => absurd rfl differs, fun _ _ differs => absurd rfl differs, fun _ => rfl⟩

theorem Announced.trans
    {first second : List Event}
    (one : Announced before middle first)
    (two : Announced middle after second) :
    Announced before after (first ++ second) := by
  refine ⟨?_, ?_, ?_⟩
  · intro space document key differs
    by_cases early : (before.table space).lookup? document key =
        (middle.table space).lookup? document key
    · obtain ⟨event, member, tells⟩ := two.symbols space document key (early ▸ differs)
      exact ⟨event, List.mem_append_right _ member, tells⟩
    · obtain ⟨event, member, tells⟩ := one.symbols space document key early
      exact ⟨event, List.mem_append_left _ member, tells⟩
  · intro document id differs
    by_cases early : before.placement? document id = middle.placement? document id
    · obtain ⟨event, member, tells⟩ := two.scopes document id (early ▸ differs)
      exact ⟨event, List.mem_append_right _ member, tells⟩
    · obtain ⟨event, member, tells⟩ := one.scopes document id early
      exact ⟨event, List.mem_append_left _ member, tells⟩
  · intro none
    obtain ⟨firstNone, secondNone⟩ := List.append_eq_nil_iff.mp none
    exact (two.silent secondNone).trans (one.silent firstNone)

/-- Further events do no harm. -/
theorem Announced.mono
    {more : List Event}
    (announced : Announced before after events)
    (wider : events ⊆ more) :
    Announced before after more := by
  refine ⟨?_, ?_, ?_⟩
  · intro space document key differs
    obtain ⟨event, member, tells⟩ := announced.symbols space document key differs
    exact ⟨event, wider member, tells⟩
  · intro document id differs
    obtain ⟨event, member, tells⟩ := announced.scopes document id differs
    exact ⟨event, wider member, tells⟩
  · intro none
    exact announced.silent (List.subset_nil.mp (none ▸ wider))

/-! ## Member names -/

theorem placement?_syncMembers
    (registry : Registry)
    (document : String)
    (scopeId : Option String)
    (other id : String) :
    (registry.syncMembers document scopeId).placement? other id = registry.placement? other id := by
  show ((registry.scopes.setMembers document scopeId _).get? other (some id)).map _ = _
  unfold ScopeTree.setMembers
  split
  · rfl
  · rw [ScopeTree.get?, Option.bind_some, ScopeTree.entries_setEntries, placement?,
      ScopeTree.get?, Option.bind_some]
    by_cases here : document = other
    · subst here
      rw [if_pos rfl]
      exact map_get?_modify_of_kept _ _ id Scope.placement (by intro scope; rfl)
    · rw [if_neg here]

/-- Member names that are brought up to date need no event of their own. -/
theorem Announced.syncMembers
    (announced : Announced before after events)
    (heard : events ≠ [])
    (document : String)
    (scopeId : Option String) :
    Announced before (after.syncMembers document scopeId) events where
  symbols := by
    intro space other key differs
    rw [table_syncMembers] at differs
    exact announced.symbols space other key differs
  scopes := by
    intro other id differs
    rw [placement?_syncMembers] at differs
    exact announced.scopes other id differs
  silent := fun none => absurd none heard

theorem Announced.foldl_syncMembers
    (announced : Announced before after events)
    (heard : events ≠ [])
    (document : String)
    (touched : List (Option String)) :
    Announced before
      (touched.foldl (fun rest scopeId => rest.syncMembers document scopeId) after) events := by
  induction touched generalizing after with
  | nil => exact announced
  | cons scopeId rest ih => exact ih (announced.syncMembers heard document scopeId)

/-! ## Symbols -/

theorem lookup?_withSymbols
    (registry : Registry)
    (space : Namespace)
    (document : String)
    (symbols : SymbolEntries)
    (other : Namespace)
    (target : String)
    (key : SymbolKey) :
    ((registry.withSymbols space document symbols).table other).lookup? target key =
      if space = other ∧ document = target then symbols.get? key
      else (registry.table other).lookup? target key := by
  rw [withSymbols, table_setTable, SymbolTable.lookup?]
  by_cases same : space = other
  · rw [if_pos same, SymbolTable.entries_setEntries]
    subst same
    by_cases here : document = target
    · rw [if_pos here, if_pos ⟨rfl, here⟩]
    · rw [if_neg here, if_neg fun both => here both.2]
      rfl
  · rw [if_neg same, if_neg fun both => same both.1]
    rfl

theorem placement?_setTable
    (registry : Registry)
    (space : Namespace)
    (table : SymbolTable)
    (document id : String) :
    (registry.setTable space table).placement? document id = registry.placement? document id := by
  rw [placement?, placement?, scopes_setTable]

/-- New symbols in a namespace of a document are announced by events for the keys at which they
differ from the old ones. -/
theorem announced_withSymbols
    {space : Namespace}
    {symbols : SymbolEntries}
    (told : ∀ key, (registry.table space).lookup? document key ≠ symbols.get? key →
      ∃ event ∈ events, event.TellsOfSymbol space document key)
    (heard : events ≠ []) :
    Announced registry (registry.withSymbols space document symbols) events where
  symbols := by
    intro other target key differs
    rw [lookup?_withSymbols] at differs
    split at differs
    · rename_i here
      obtain ⟨rfl, rfl⟩ := here
      exact told key differs
    · exact absurd rfl differs
  scopes := by
    intro other id differs
    exact absurd (placement?_setTable registry space _ other id).symm differs
  silent := fun none => absurd none heard

/-- The event of an operation on one key tells of that key. -/
theorem tellsOfSymbol_at (space : Namespace) (document : String) (key : SymbolKey) :
    (⟨document, space.eventKind, some key.name, key.scopeId⟩ : Event).TellsOfSymbol space document
      key :=
  ⟨rfl, Or.inr ⟨rfl, Or.inr ⟨rfl, rfl⟩⟩⟩

/-- New symbols that differ from the old ones at one key only are announced by the event of that
key. -/
theorem announced_withSymbols_at
    {space : Namespace}
    {symbols : SymbolEntries}
    (key : SymbolKey)
    (elsewhere : ∀ other, key ≠ other →
      symbols.get? other = ((registry.table space).entries document).get? other) :
    Announced registry (registry.withSymbols space document symbols)
      [⟨document, space.eventKind, some key.name, key.scopeId⟩] := by
  refine announced_withSymbols (fun other differs => ⟨_, List.mem_singleton.mpr rfl, ?_⟩) (by simp)
  have here : key = other := by
    by_contra apart
    exact differs (elsewhere other apart).symm
  subst here
  exact tellsOfSymbol_at space document key

theorem announced_declare
    (registry : Registry)
    (space : Namespace)
    (document : String)
    (symbol : Symbol) :
    Announced registry (registry.declare space document symbol).registry
      (registry.declare space document symbol).events := by
  let stored := { symbol with scopeKind := registry.scopes.kindOf document symbol.scopeId }
  have written : Announced registry
      (registry.withSymbols space document
        (((registry.table space).entries document).insert symbol.key stored))
      [⟨document, space.eventKind, some symbol.name, symbol.scopeId⟩] :=
    announced_withSymbols_at symbol.key fun other apart => by rw [get?_insert, if_neg apart]
  unfold Registry.declare
  split
  · exact .refl registry []
  · split
    · exact .refl registry []
    · exact written.syncMembers (by simp) document symbol.scopeId

theorem announced_revise
    (registry : Registry)
    (space : Namespace)
    (document name : String)
    (scopeId : Option String)
    (fields : Record.Fields) :
    Announced registry (registry.revise space document name scopeId fields).registry
      (registry.revise space document name scopeId fields).events := by
  have written : ∀ symbol : Symbol,
      Announced registry
        (registry.withSymbols space document
          (((registry.table space).entries document).insert ⟨scopeId, name⟩ symbol))
        [⟨document, space.eventKind, some name, scopeId⟩] := fun symbol =>
    announced_withSymbols_at ⟨scopeId, name⟩ fun other apart => by rw [get?_insert, if_neg apart]
  unfold Registry.revise SymbolTable.revise
  cases (registry.table space).lookup? document ⟨scopeId, name⟩ with
  | none => exact .refl registry []
  | some current =>
      dsimp only
      cases current.merge (fields.filter fun field => field.1 != "scope_type") with
      | bad faults => exact .refl registry []
      | ok symbol => exact written symbol

theorem announced_remove
    (registry : Registry)
    (space : Namespace)
    (document name : String)
    (scopeId : Option String) :
    Announced registry (registry.remove space document name scopeId).registry
      (registry.remove space document name scopeId).events := by
  have erased : Announced registry
      (registry.withSymbols space document
        (((registry.table space).entries document).erase ⟨scopeId, name⟩))
      [⟨document, space.eventKind, some name, scopeId⟩] :=
    announced_withSymbols_at ⟨scopeId, name⟩ fun other apart => by rw [get?_erase, if_neg apart]
  unfold Registry.remove
  dsimp only
  split
  · exact .refl registry []
  · exact erased.syncMembers (by simp) document scopeId

theorem announced_clearSymbols
    (registry : Registry)
    (space : Namespace)
    (document : String) :
    Announced registry (registry.clearSymbols space document).registry
      (registry.clearSymbols space document).events := by
  have cleared :
      Announced registry (registry.withSymbols space document ∅)
        [⟨document, space.eventKind, none, none⟩] :=
    announced_withSymbols
      (fun _ _ => ⟨_, List.mem_singleton.mpr rfl, rfl, Or.inr ⟨rfl, Or.inl rfl⟩⟩) (by simp)
  exact cleared.foldl_syncMembers (by simp) document _

/-! ## Scopes -/

/-- New scopes in a document are announced by one event for its scopes. -/
theorem announced_withScopes
    {tree : ScopeTree}
    (elsewhere : ∀ other, document ≠ other → tree.entries other = registry.scopes.entries other)
    (scopeId : Option String) :
    Announced registry (registry.withScopes tree) [⟨document, .scopesChanged, none, scopeId⟩] where
  symbols := by
    intro space other key differs
    rw [table_withScopes] at differs
    exact absurd rfl differs
  scopes := by
    intro other id differs
    refine ⟨_, List.mem_singleton.mpr rfl, ?_, Or.inl rfl⟩
    by_contra apart
    refine differs ?_
    show _ = (tree.get? other (some id)).map Scope.placement
    rw [ScopeTree.get?, Option.bind_some, elsewhere other apart]
    rfl
  silent := fun none => absurd none (by simp)

theorem announced_createScope
    {requested : Scope}
    {change : Change (Option Scope)}
    (created : registry.createScope document requested = .ok change) :
    Announced registry change.registry change.events := by
  have settled : ∀ tree : ScopeTree,
      (∀ other, document ≠ other → tree.entries other = registry.scopes.entries other) →
      Announced registry ((registry.withScopes tree).syncMembers document (some requested.id))
        [⟨document, .scopesChanged, none, some requested.id⟩] := by
    intro tree elsewhere
    exact (announced_withScopes elsewhere _).syncMembers (by simp) document _
  unfold Registry.createScope ScopeTree.create at created
  by_cases outside : requested.kind = .global
  · simp [outside] at created
  · rw [if_neg outside] at created
    cases refusal : registry.scopes.refusal? document requested with
    | error fault => simp [refusal] at created
    | ok refused =>
        cases refused with
        | some reason =>
            simp only [refusal, Except.ok.injEq] at created
            subst created
            exact .refl registry []
        | none =>
            cases stored : registry.scopes.get? document (some requested.id) with
            | some scope =>
                simp only [refusal, stored, Except.ok.injEq] at created
                subst created
                refine settled _ fun other apart => ?_
                rw [ScopeTree.entries_move, if_neg apart]
            | none =>
                simp only [refusal, stored, Except.ok.injEq] at created
                subst created
                refine settled _ fun other apart => ?_
                rw [ScopeTree.entries_plant, if_neg apart]

/-- The symbols of a namespace that go with a scope are told of one by one. -/
theorem announced_dropMembers
    {scopes : ScopeEntries}
    {space : Namespace}
    (owned : Owned scopes ((registry.table space).entries document))
    (id : String) :
    Announced registry (dropMembers space document id registry).registry
      (dropMembers space document id registry).events := by
  let table := registry.table space
  let keys := table.memberKeys document (some id)
  have owner : ∀ key ∈ keys, key.scopeId = some id := by
    intro key member
    obtain ⟨symbol, listed, rfl⟩ := List.mem_map.mp member
    exact ((owned.mem_listIn_iff _ symbol).mp listed).2
  refine ⟨?_, ?_, ?_⟩
  · intro other target key differs
    have tables := table_dropMembers registry space other document id target
    rw [SymbolTable.lookup?, SymbolTable.lookup?, tables] at differs
    split at differs
    · rename_i here
      obtain ⟨rfl, rfl⟩ := here
      rw [get?_foldl_erase] at differs
      have gone : key ∈ keys := by
        by_contra stays
        rw [if_neg stays] at differs
        exact differs rfl
      refine ⟨_, List.mem_map.mpr ⟨key, gone, rfl⟩, ?_⟩
      rw [← owner key gone]
      exact tellsOfSymbol_at space document key
    · exact absurd rfl differs
  · intro other target differs
    exact absurd (placement?_setTable registry space _ other target).symm differs
  · intro none
    have nothing : keys = [] := List.map_eq_nil_iff.mp none
    show registry.setTable space (table.removeEach document keys).2 = registry
    rw [nothing]
    cases space <;> rfl

theorem announced_dropOwned
    {scopes : ScopeEntries}
    {change : Change (List String)}
    (owned : ∀ space, Owned scopes ((change.registry.table space).entries document))
    (announced : Announced before change.registry change.events)
    (id : String) :
    Announced before (dropOwned document change id).registry
      (dropOwned document change id).events := by
  let middle := (dropMembers .vars document id change.registry).registry
  have ownedStill : Owned scopes ((middle.table .functions).entries document) := by
    rw [table_dropMembers, if_neg (by simp)]
    exact owned .functions
  exact (announced.trans (announced_dropMembers (owned .vars) id)).trans
    (announced_dropMembers ownedStill id)

theorem announced_foldl_dropOwned
    {scopes : ScopeEntries}
    {change : Change (List String)}
    (owned : ∀ space, Owned scopes ((change.registry.table space).entries document))
    (announced : Announced before change.registry change.events)
    (gone : List String) :
    Announced before (gone.foldl (dropOwned document) change).registry
      (gone.foldl (dropOwned document) change).events := by
  induction gone generalizing change with
  | nil => exact announced
  | cons id rest ih =>
      have released := releasedIn_dropOwned owned id
      exact ih (fun space => (released.here space).owned (owned space))
        (announced_dropOwned owned announced id)

theorem Consistent.announced_destroyScope
    (consistent : registry.Consistent)
    (document id : String) :
    Announced registry (registry.destroyScope document id).registry
      (registry.destroyScope document id).events := by
  cases stored : registry.scopes.get? document (some id) with
  | none =>
      rw [destroyScope_of_missing stored]
      exact .refl registry []
  | some scope =>
      let event : Event := ⟨document, .scopesChanged, none, some id⟩
      let removed := registry.scopes.doomed document id
      let felled := registry.felling document id
      have owned : ∀ space, Owned (registry.scopes.entries document)
          ((felled.registry.table space).entries document) := by
        intro space
        rw [table_felling]
        exact (consistent document).owned space
      have fell : Announced registry felled.registry [event] := by
        refine announced_withScopes (fun other apart => ?_) (some id)
        rw [ScopeTree.entries_destroy _ _ _ _ stored, if_neg apart]
      have drops := announced_foldl_dropOwned owned (.refl felled.registry felled.events) removed
      rw [destroyScope_eq stored]
      -- The scopes go first, but they are told of last.
      refine (fell.trans drops).mono ?_
      intro told member
      rcases List.mem_append.mp member with here | before
      · exact List.mem_append_right _ here
      · exact List.mem_append_left _ before

/-! ## Active scopes and documents -/

/-- Which scopes are entered shows neither in the symbols nor in the placements. -/
theorem announced_of_entries
    {tree : ScopeTree}
    (same : ∀ other, tree.entries other = registry.scopes.entries other)
    (heard : events ≠ []) :
    Announced registry (registry.withScopes tree) events where
  symbols := by
    intro space other key differs
    rw [table_withScopes] at differs
    exact absurd rfl differs
  scopes := by
    intro other id differs
    refine absurd ?_ differs
    show _ = (tree.get? other (some id)).map Scope.placement
    rw [ScopeTree.get?, Option.bind_some, same]
    rfl
  silent := fun none => absurd none heard

theorem announced_enterScope
    (registry : Registry)
    (document : String)
    (scopeId : Option String) :
    Announced registry (registry.enterScope document scopeId).registry
      (registry.enterScope document scopeId).events := by
  unfold Registry.enterScope
  split
  · exact announced_of_entries (fun other => ScopeTree.entries_enter _ _ _ other) (by simp)
  · exact .refl registry []

theorem announced_exitScope
    (registry : Registry)
    (document scopeId : String) :
    Announced registry (registry.exitScope document scopeId).registry
      (registry.exitScope document scopeId).events := by
  unfold Registry.exitScope
  split
  · exact announced_of_entries (fun other => ScopeTree.entries_leave _ _ _ other) (by simp)
  · exact .refl registry []

theorem announced_clearDocument
    (registry : Registry)
    (document : String) :
    Announced registry (registry.clearDocument document).registry
      (registry.clearDocument document).events := by
  have tables : ∀ space other, document ≠ other →
      ((registry.clearDocument document).registry.table space).entries other =
        (registry.table space).entries other := by
    intro space other apart
    cases space <;> exact (SymbolTable.entries_clear _ document other).trans (if_neg apart)
  refine ⟨?_, ?_, fun none => absurd none (List.cons_ne_nil _ _)⟩
  · intro space other key differs
    refine ⟨_, List.mem_singleton.mpr rfl, ?_, Or.inl rfl⟩
    by_contra apart
    refine differs ?_
    rw [SymbolTable.lookup?, SymbolTable.lookup?, tables space other apart]
  · intro other id differs
    refine ⟨_, List.mem_singleton.mpr rfl, ?_, Or.inr rfl⟩
    by_contra apart
    refine differs ?_
    show _ = ((registry.scopes.clear document).get? other (some id)).map Scope.placement
    rw [ScopeTree.get?, Option.bind_some, ScopeTree.entries_clear, if_neg apart]
    rfl

/-! ## Every operation -/

/-- In a consistent registry the events of every operation announce what it changes. -/
theorem Consistent.announced
    (consistent : registry.Consistent)
    (operation : Operation)
    (accepted : operation.effect registry = .ok (after, events)) :
    Announced registry after events := by
  cases operation with
  | declare space document symbol =>
      cases accepted
      exact announced_declare registry space document symbol
  | revise space document name scopeId fields =>
      cases accepted
      exact announced_revise registry space document name scopeId fields
  | remove space document name scopeId =>
      cases accepted
      exact announced_remove registry space document name scopeId
  | clearSymbols space document =>
      cases accepted
      exact announced_clearSymbols registry space document
  | createScope document scope =>
      rw [Operation.effect] at accepted
      cases created : registry.createScope document scope with
      | error fault => simp [created, Except.map] at accepted
      | ok change =>
          rw [created] at accepted
          cases accepted
          exact announced_createScope created
  | destroyScope document scopeId =>
      cases accepted
      exact consistent.announced_destroyScope document scopeId
  | enterScope document scopeId =>
      cases accepted
      exact announced_enterScope registry document scopeId
  | exitScope document scopeId =>
      cases accepted
      exact announced_exitScope registry document scopeId
  | clearDocument document =>
      cases accepted
      exact announced_clearDocument registry document

end Registry

end LuauNodes
