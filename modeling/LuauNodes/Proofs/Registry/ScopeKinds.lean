import LuauNodes.Proofs.Registry.ActiveHistory
import LuauNodes.Proofs.Registry.Announcement

/-!
# The kind of the scope on a symbol

A symbol carries the kind of its scope as a copy that is taken when the symbol
is declared.  Nothing takes the copy anew: changing the symbol keeps it, and
creating its scope again with another kind changes the scope alone.  So the
history tells both kinds: the one on the symbol is the one that its scope had at
its last declaration, and the one of the scope is the one that it was last
created with.
-/

namespace LuauNodes

open OrderedMap

/-! ## Kinds of scopes -/

namespace ScopeTree

variable {scopes : ScopeEntries} {id : String}

/-- The kind of a scope of a document, if it is stored. -/
def kindOf? (scopes : ScopeEntries) (id : String) : Option ScopeKind :=
  (scopes.get? id).map Scope.kind

theorem kindOf?_addChild
    (scopes : ScopeEntries)
    (parent : Option String)
    (child id : String) :
    kindOf? (addChild scopes parent child) id = kindOf? scopes id := by
  cases parent with
  | none => rfl
  | some parent => exact scopes.map_get?_modify_of_kept parent id Scope.kind (by intro scope; rfl)

theorem kindOf?_dropChild
    (scopes : ScopeEntries)
    (parent : Option String)
    (child id : String) :
    kindOf? (dropChild scopes parent child) id = kindOf? scopes id := by
  cases parent with
  | none => rfl
  | some parent => exact scopes.map_get?_modify_of_kept parent id Scope.kind (by intro scope; rfl)

theorem kindOf?_planted (scopes : ScopeEntries) (requested : Scope) (id : String) :
    kindOf? (Forest.planted scopes requested) id =
      if requested.id = id then some requested.kind else kindOf? scopes id := by
  rw [kindOf?, Forest.planted, get?_insert, kindOf?]
  split <;> rfl

theorem kindOf?_uprooted
    {stored requested : Scope}
    (found : scopes.get? id = some stored)
    (keyed : stored.id = id)
    (other : String) :
    kindOf? (Forest.uprooted scopes stored requested) other =
      if id = other then some requested.kind else kindOf? scopes other := by
  rw [kindOf?, Forest.uprooted, get?_modify, keyed]
  have kept := kindOf?_dropChild scopes stored.parentId id other
  by_cases own : id = other
  · subst own
    rw [kindOf?, kindOf?, found] at kept
    obtain ⟨scope, scopeAt, _⟩ := Option.map_eq_some_iff.mp kept
    simp [scopeAt, adopt]
  · rw [if_neg own, if_neg own]
    exact kept

end ScopeTree

open ScopeTree (kindOf?)

namespace Registry

variable {registry after : Registry} {document : String} {events : List Event}

/-- The kind of a scope of a document, if it is stored. -/
def kindAt? (registry : Registry) (document id : String) : Option ScopeKind :=
  kindOf? (registry.scopes.entries document) id

theorem kindAt?_eq (registry : Registry) (document id : String) :
    registry.kindAt? document id = (registry.placement? document id).map Prod.fst := by
  rw [placement?, Option.map_map]
  rfl

theorem kindAt?_syncMembers
    (registry : Registry)
    (document : String)
    (scopeId : Option String)
    (other id : String) :
    (registry.syncMembers document scopeId).kindAt? other id = registry.kindAt? other id := by
  rw [kindAt?_eq, kindAt?_eq, placement?_syncMembers]

theorem kindAt?_setTable
    (registry : Registry)
    (space : Namespace)
    (table : SymbolTable)
    (document id : String) :
    (registry.setTable space table).kindAt? document id = registry.kindAt? document id := by
  rw [kindAt?, scopes_setTable, kindAt?]

theorem kindAt?_declare
    (registry : Registry)
    (space : Namespace)
    (written : String)
    (symbol : Symbol)
    (document id : String) :
    (registry.declare space written symbol).registry.kindAt? document id =
      registry.kindAt? document id := by
  unfold Registry.declare
  split
  · rfl
  · split
    · rfl
    · exact (kindAt?_syncMembers ..).trans (kindAt?_setTable ..)

theorem kindAt?_remove
    (registry : Registry)
    (space : Namespace)
    (written name : String)
    (scopeId : Option String)
    (document id : String) :
    (registry.remove space written name scopeId).registry.kindAt? document id =
      registry.kindAt? document id := by
  unfold Registry.remove
  dsimp only
  split
  · rfl
  · exact (kindAt?_syncMembers ..).trans (kindAt?_setTable ..)

theorem kindAt?_clearSymbols
    (registry : Registry)
    (space : Namespace)
    (written document id : String) :
    (registry.clearSymbols space written).registry.kindAt? document id =
      registry.kindAt? document id :=
  List.foldlRecOn (motive := fun rest : Registry =>
      rest.kindAt? document id = registry.kindAt? document id)
    _ _ (kindAt?_setTable registry space _ document id)
    fun rest same scopeId _ => (kindAt?_syncMembers rest written scopeId document id).trans same

theorem kindAt?_enterScope
    (registry : Registry)
    (written : String)
    (scopeId : Option String)
    (document id : String) :
    (registry.enterScope written scopeId).registry.kindAt? document id =
      registry.kindAt? document id := by
  unfold Registry.enterScope
  split
  · rw [kindAt?, kindAt?, ScopeTree.entries_enter]
  · rfl

theorem kindAt?_exitScope
    (registry : Registry)
    (written scopeId document id : String) :
    (registry.exitScope written scopeId).registry.kindAt? document id =
      registry.kindAt? document id := by
  unfold Registry.exitScope
  split
  · rw [kindAt?, kindAt?, ScopeTree.entries_leave]
  · rfl

/-- A request for a scope gives it the kind that is asked for, unless the request is refused, and
every other scope keeps its kind. -/
theorem ConsistentAt.kindAt?_createScope
    {pending : List (Option String)}
    (consistent : registry.ConsistentAt document pending)
    {scope : Scope}
    {change : Change (Option Scope)}
    (created : registry.createScope document scope = .ok change)
    (id : String) :
    change.registry.kindAt? document id =
      if scope.id = id ∧ change.result.isSome = true then some scope.kind
      else registry.kindAt? document id := by
  have inner : scope.kind ≠ .global := by
    intro outside
    rw [Registry.createScope, ScopeTree.create_eq_error_of_global outside] at created
    cases created
  -- What is written decides the kinds, and the scope is found among what is written.
  have settled : ∀ (tree : ScopeTree) (notice : Notice),
      (∀ other, kindOf? (tree.entries document) other =
        if scope.id = other then some scope.kind else registry.kindAt? document other) →
      change = ({ registry with scopes := tree } : Registry).settleScope document scope.id notice →
      change.registry.kindAt? document id =
        if scope.id = id ∧ change.result.isSome = true then some scope.kind
        else registry.kindAt? document id := by
    rintro tree notice kinds rfl
    let written : Registry := { registry with scopes := tree }
    have found : (written.syncMembers document (some scope.id)).kindAt? document scope.id =
        some scope.kind := by
      rw [kindAt?_syncMembers, kindAt?, kinds, if_pos rfl]
    have present : (written.settleScope document scope.id notice).result.isSome = true := by
      obtain ⟨stored, stands, _⟩ := Option.map_eq_some_iff.mp found
      exact Option.isSome_iff_exists.mpr ⟨stored, stands⟩
    refine (kindAt?_syncMembers written document _ document id).trans ((kinds id).trans ?_)
    exact (if_congr (and_iff_left present) rfl rfl).symm
  obtain ⟨creation, decided, settles⟩ := ScopeTree.create_settles consistent.forest inner
  rw [Registry.createScope, decided] at created
  cases settles with
  | parentMissing | cycle =>
      cases created
      simp [Registry.unchanged]
  | created fresh _ =>
      refine settled _ _ (fun other => ?_) (Except.ok.inj created).symm
      rw [ScopeTree.entries_plant, if_pos rfl, ScopeTree.kindOf?_addChild,
        ScopeTree.kindOf?_planted]
      rfl
  | moved found _ =>
      have keyed := (consistent.forest.proper _ _ found).keyed
      refine settled _ _ (fun other => ?_) (Except.ok.inj created).symm
      rw [ScopeTree.entries_move, if_pos rfl, ScopeTree.kindOf?_addChild,
        ScopeTree.kindOf?_uprooted found keyed]
      rfl

/-- A scope that stays when another one is destroyed keeps its kind. -/
theorem Consistent.kindAt?_of_destroyScope
    (consistent : registry.Consistent)
    {written target id : String}
    {kind : ScopeKind}
    (stays : (registry.destroyScope written target).registry.kindAt? document id = some kind) :
    registry.kindAt? document id = some kind := by
  by_cases here : written = document
  · subst here
    cases found : registry.scopes.get? written (some target) with
    | none => rwa [destroyScope_of_missing found] at stays
    | some scope =>
        obtain ⟨left, stored, same⟩ := Option.map_eq_some_iff.mp stays
        have after := ((consistent written).destruction found).scopeAt id
        rw [ScopeTree.get?, Option.bind_some, stored] at after
        split at after
        · cases after
        · obtain ⟨before, storedBefore, rfl⟩ := Option.map_eq_some_iff.mp after.symm
          rw [← same]
          exact Option.map_eq_some_iff.mpr
            ⟨before, storedBefore, by rw [Scope.losing]; split <;> rfl⟩
  · have agrees : AgreesOn document (registry.destroyScope written target).registry registry :=
      (changesOnly_destroyScope target).agreesOn here
    rwa [kindAt?, agrees.scopes.entries] at stays

theorem kindAt?_of_clearDocument
    {written id : String}
    {kind : ScopeKind}
    (stays : (registry.clearDocument written).registry.kindAt? document id = some kind) :
    registry.kindAt? document id = some kind := by
  rw [kindAt?, Registry.clearDocument, ScopeTree.entries_clear] at stays
  split at stays
  · cases stays
  · exact stays

theorem kindAt?_of_has
    {scopeId : Option String}
    {id : String}
    (owner : scopeId = some id)
    (stored : registry.scopes.has document scopeId = true) :
    registry.kindAt? document id = some (registry.scopes.kindOf document scopeId) := by
  subst owner
  obtain ⟨scope, found⟩ := Option.isSome_iff_exists.mp stored
  rw [ScopeTree.kindOf, found]
  exact congrArg (Option.map Scope.kind) found

/-- A symbol as it is kept in a document: with the kind that its scope has now. -/
def dated (registry : Registry) (document : String) (symbol : Symbol) : Symbol :=
  { symbol with scopeKind := registry.scopes.kindOf document symbol.scopeId }

/-- A declaration is refused, or keeps the symbol with the kind of its scope. -/
theorem declare_cases (registry : Registry) (space : Namespace) (document : String)
    (symbol : Symbol) :
    (registry.declare space document symbol).result = none ∧
        (registry.declare space document symbol).registry = registry ∨
      (registry.declare space document symbol).result = some (registry.dated document symbol) ∧
        (registry.declare space document symbol).registry =
          (registry.withSymbols space document
            (((registry.table space).entries document).insert symbol.key
              (registry.dated document symbol))).syncMembers document symbol.scopeId ∧
        ∀ id, symbol.scopeId = some id →
          registry.kindAt? document id = some (registry.dated document symbol).scopeKind := by
  unfold Registry.declare
  split
  · exact Or.inl ⟨rfl, rfl⟩
  · split
    · exact Or.inl ⟨rfl, rfl⟩
    · rename_i refused
      refine Or.inr ⟨rfl, rfl, fun id owner => kindAt?_of_has owner ?_⟩
      cases stored : registry.scopes.has document symbol.scopeId with
      | true => rfl
      | false => exact (refused id owner stored).elim

/-- Changing fields of a symbol keeps the kind of its scope. -/
theorem scopeKind_of_revise
    {space other : Namespace}
    {written name : String}
    {scopeId : Option String}
    {fields : Record.Fields}
    {key : SymbolKey}
    {symbol : Symbol}
    (now : ((registry.revise other written name scopeId fields).registry.table space).lookup?
      document key = some symbol) :
    ∃ before, (registry.table space).lookup? document key = some before ∧
      before.scopeKind = symbol.scopeKind := by
  unfold Registry.revise SymbolTable.revise SymbolTable.lookup? at now
  cases found : ((registry.table other).entries written).get? ⟨scopeId, name⟩ with
  | none =>
      simp only [found] at now
      exact ⟨symbol, now, rfl⟩
  | some current =>
      cases merged : current.merge (fields.filter fun field => field.1 != "scope_type") with
      | bad faults =>
          simp only [found, merged] at now
          exact ⟨symbol, now, rfl⟩
      | ok revised =>
          have kindless : Json.entry? "scope_type"
              (fields.filter fun field => field.1 != "scope_type") = none := by
            rw [Json.entry?_eq_none_iff]
            intro field member
            simpa using (List.mem_filter.mp member).2
          have kind := (Symbol.merge_eq_ok merged).2.2 kindless
          simp only [found, merged] at now
          replace now := (lookup?_withSymbols registry other written
            (((registry.table other).entries written).insert ⟨scopeId, name⟩ revised) space
            document key).symm.trans now
          split at now
          · rename_i here
            obtain ⟨rfl, rfl⟩ := here
            rw [get?_insert] at now
            split at now
            · rename_i same
              subst same
              cases now
              exact ⟨current, found, kind.symm⟩
            · exact ⟨symbol, now, rfl⟩
          · exact ⟨symbol, now, rfl⟩

/-- The symbols that a document keeps after a change were kept before, just as they are. -/
def FewerSymbols (document : String) (registry after : Registry) : Prop :=
  ∀ (space : Namespace) (key : SymbolKey) (symbol : Symbol),
    (after.table space).lookup? document key = some symbol →
      (registry.table space).lookup? document key = some symbol

theorem fewerSymbols_of_table (same : ∀ space, after.table space = registry.table space) :
    FewerSymbols document registry after := by
  intro space key symbol now
  rwa [same] at now

theorem FewerSymbols.syncMembers
    (fewer : FewerSymbols document registry after)
    (written : String)
    (scopeId : Option String) :
    FewerSymbols document registry (after.syncMembers written scopeId) := by
  intro space key symbol now
  rw [table_syncMembers] at now
  exact fewer space key symbol now

theorem fewerSymbols_withSymbols
    {space : Namespace}
    {written : String}
    {symbols : SymbolEntries}
    (left : ∀ key symbol, symbols.get? key = some symbol →
      ((registry.table space).entries written).get? key = some symbol) :
    FewerSymbols document registry (registry.withSymbols space written symbols) := by
  intro other key symbol now
  rw [lookup?_withSymbols] at now
  split at now
  · rename_i here
    obtain ⟨rfl, rfl⟩ := here
    exact left key symbol now
  · exact now

theorem fewerSymbols_remove
    (registry : Registry)
    (space : Namespace)
    (written name : String)
    (scopeId : Option String) :
    FewerSymbols document registry
      (registry.remove space written name scopeId).registry := by
  unfold Registry.remove
  dsimp only
  split
  · exact fun _ _ _ now => now
  · refine (fewerSymbols_withSymbols fun key symbol left => ?_).syncMembers written scopeId
    rw [get?_erase] at left
    split at left
    · cases left
    · exact left

theorem fewerSymbols_clearSymbols
    (registry : Registry)
    (space : Namespace)
    (written : String) :
    FewerSymbols document registry (registry.clearSymbols space written).registry :=
  List.foldlRecOn (motive := FewerSymbols document registry) _ _
    (fewerSymbols_withSymbols fun _ _ left => by cases left)
    fun _ fewer scopeId _ => fewer.syncMembers written scopeId

theorem fewerSymbols_createScope
    {written : String}
    {scope : Scope}
    {change : Change (Option Scope)}
    (created : registry.createScope written scope = .ok change) :
    FewerSymbols document registry change.registry := by
  rcases exists_setEntries_of_createScope created with same | ⟨scopes, -, same⟩
  · rw [same]
    exact fun _ _ _ now => now
  · rw [same]
    exact (fewerSymbols_of_table fun space => by cases space <;> rfl).syncMembers _ _

theorem Consistent.fewerSymbols_destroyScope
    (consistent : registry.Consistent)
    (written target : String) :
    FewerSymbols document registry (registry.destroyScope written target).registry := by
  by_cases here : written = document
  · subst here
    cases found : registry.scopes.get? written (some target) with
    | none =>
        rw [destroyScope_of_missing found]
        exact fun _ _ _ now => now
    | some scope =>
        intro space key symbol now
        rw [((consistent written).destruction found).symbolAt] at now
        split at now
        · cases now
        · exact now
  · have agrees : AgreesOn document (registry.destroyScope written target).registry registry :=
      (changesOnly_destroyScope target).agreesOn here
    intro space key symbol now
    rwa [(agrees.table space).lookup?] at now

theorem fewerSymbols_clearDocument (registry : Registry) (written : String) :
    FewerSymbols document registry (registry.clearDocument written).registry := by
  intro space key symbol now
  have left : ((registry.table space).clear written).lookup? document key = some symbol := by
    cases space <;> exact now
  rw [SymbolTable.lookup?, SymbolTable.entries_clear] at left
  split at left
  · cases left
  · exact left

end Registry

/-! ## One moment -/

namespace Moment

open Registry

variable {registry after : Registry} {document written : String} {scope : Scope}
  {events : List Event}

/-- A symbol is declared at a key of a document. -/
def Declares (space : Namespace) (document : String) (key : SymbolKey) (moment : Moment) : Prop :=
  match moment.operation with
  | .declare other written symbol =>
    other = space ∧ written = document ∧ symbol.key = key ∧
      (moment.registry.declare other written symbol).result.isSome = true
  | _ => False

/-- The kind with which a scope of a document is created, for the first time or anew. -/
def created? (document id : String) (moment : Moment) : Option ScopeKind :=
  match moment.operation with
  | .createScope written scope =>
    match moment.registry.createScope written scope with
    | .ok change =>
      if written = document ∧ scope.id = id ∧ change.result.isSome = true then some scope.kind
      else none
    | .error _ => none
  | _ => none

/-- A creation that is carried out is a change, refused or not. -/
theorem exists_createScope_of_effect
    (accepted : (Operation.createScope written scope).effect registry = .ok (after, events)) :
    ∃ change, registry.createScope written scope = .ok change ∧ change.registry = after ∧
      change.events = events := by
  rw [Operation.effect] at accepted
  cases created : registry.createScope written scope with
  | error fault => simp [created, Except.map] at accepted
  | ok change =>
      rw [created] at accepted
      cases accepted
      exact ⟨change, rfl, rfl, rfl⟩

theorem Declares.created?_eq_none
    {space : Namespace}
    {key : SymbolKey}
    {moment : Moment}
    (declares : moment.Declares space document key)
    {id : String} :
    moment.created? document id = none := by
  unfold Declares at declares
  split at declares
  · rename_i declaration
    rw [created?, declaration]
  · exact declares.elim

/-- A scope that is stored after an operation was created in it, or had its kind before. -/
theorem kindAt?_of_effect
    (consistent : registry.Consistent)
    (operation : Operation)
    (accepted : operation.effect registry = .ok (after, events))
    {id : String}
    {kind : ScopeKind}
    (now : after.kindAt? document id = some kind) :
    created? document id ⟨registry, operation⟩ = some kind ∨
      created? document id ⟨registry, operation⟩ = none ∧
        registry.kindAt? document id = some kind := by
  cases operation with
  | declare space written symbol =>
      cases accepted
      exact Or.inr ⟨rfl, (kindAt?_declare ..).symm.trans now⟩
  | revise space written name scopeId fields =>
      cases accepted
      rw [kindAt?, scopes_revise] at now
      exact Or.inr ⟨rfl, now⟩
  | remove space written name scopeId =>
      cases accepted
      exact Or.inr ⟨rfl, (kindAt?_remove ..).symm.trans now⟩
  | clearSymbols space written =>
      cases accepted
      exact Or.inr ⟨rfl, (kindAt?_clearSymbols ..).symm.trans now⟩
  | createScope written scope =>
      obtain ⟨change, created, rfl, -⟩ := exists_createScope_of_effect accepted
      simp only [created?, created]
      by_cases here : written = document
      · subst here
        rw [(consistent written).kindAt?_createScope created] at now
        split at now
        · rename_i itself
          exact Or.inl (by rw [if_pos ⟨rfl, itself⟩, now])
        · rename_i other
          exact Or.inr ⟨if_neg fun all => other all.2, now⟩
      · have agrees := (changesOnly_createScope created).agreesOn here
        refine Or.inr ⟨if_neg fun all => here all.1, ?_⟩
        rwa [kindAt?, agrees.scopes.entries] at now
  | destroyScope written target =>
      cases accepted
      exact Or.inr ⟨rfl, consistent.kindAt?_of_destroyScope now⟩
  | enterScope written scopeId =>
      cases accepted
      exact Or.inr ⟨rfl, (kindAt?_enterScope ..).symm.trans now⟩
  | exitScope written target =>
      cases accepted
      exact Or.inr ⟨rfl, (kindAt?_exitScope ..).symm.trans now⟩
  | clearDocument written =>
      cases accepted
      exact Or.inr ⟨rfl, kindAt?_of_clearDocument now⟩

/-- A symbol that is stored after a declaration was declared in it, with the kind of its scope, or
was stored before. -/
theorem symbol_of_declare
    {other space : Namespace}
    {declared symbol : Symbol}
    {key : SymbolKey}
    (now : ((registry.declare other written declared).registry.table space).lookup? document key =
      some symbol) :
    Declares space document key ⟨registry, .declare other written declared⟩ ∧
        (∀ id, key.scopeId = some id → registry.kindAt? document id = some symbol.scopeKind) ∨
      ¬Declares space document key ⟨registry, .declare other written declared⟩ ∧
        (registry.table space).lookup? document key = some symbol := by
  rcases registry.declare_cases other written declared with ⟨none, same⟩ | ⟨answer, same, kind⟩
  · rw [same] at now
    refine Or.inr ⟨fun declares => ?_, now⟩
    have answered := declares.2.2.2
    dsimp only at answered
    rw [none] at answered
    cases answered
  · rw [same, table_syncMembers, lookup?_withSymbols] at now
    by_cases here : other = space ∧ written = document ∧ declared.key = key
    · obtain ⟨rfl, rfl, rfl⟩ := here
      rw [if_pos ⟨rfl, rfl⟩, get?_insert, if_pos rfl] at now
      cases now
      exact Or.inl ⟨⟨rfl, rfl, rfl, by rw [answer]; rfl⟩, kind⟩
    · refine Or.inr ⟨fun declares => here ⟨declares.1, declares.2.1, declares.2.2.1⟩, ?_⟩
      split at now
      · rename_i table
        obtain ⟨rfl, rfl⟩ := table
        rwa [get?_insert, if_neg fun keyed => here ⟨rfl, rfl, keyed⟩] at now
      · exact now

/-- A symbol that is stored after an operation was declared in it, with the kind of its scope, or
was stored before with the same kind. -/
theorem symbol_of_effect
    (consistent : registry.Consistent)
    (operation : Operation)
    (accepted : operation.effect registry = .ok (after, events))
    {space : Namespace}
    {key : SymbolKey}
    {symbol : Symbol}
    (now : (after.table space).lookup? document key = some symbol) :
    Declares space document key ⟨registry, operation⟩ ∧
        (∀ id, key.scopeId = some id → registry.kindAt? document id = some symbol.scopeKind) ∨
      ¬Declares space document key ⟨registry, operation⟩ ∧
        ∃ before, (registry.table space).lookup? document key = some before ∧
          before.scopeKind = symbol.scopeKind := by
  have left (fewer : FewerSymbols document registry after) :
      ∃ before, (registry.table space).lookup? document key = some before ∧
        before.scopeKind = symbol.scopeKind :=
    ⟨symbol, fewer space key symbol now, rfl⟩
  cases operation with
  | declare other written declared =>
      cases accepted
      exact (symbol_of_declare now).imp_right fun kept => ⟨kept.1, symbol, kept.2, rfl⟩
  | revise other written name scopeId fields =>
      cases accepted
      exact Or.inr ⟨id, scopeKind_of_revise now⟩
  | remove other written name scopeId =>
      cases accepted
      exact Or.inr ⟨id, left (fewerSymbols_remove registry other written name scopeId)⟩
  | clearSymbols other written =>
      cases accepted
      exact Or.inr ⟨id, left (fewerSymbols_clearSymbols registry other written)⟩
  | createScope written scope =>
      obtain ⟨change, created, rfl, -⟩ := exists_createScope_of_effect accepted
      exact Or.inr ⟨id, left (fewerSymbols_createScope created)⟩
  | destroyScope written target =>
      cases accepted
      exact Or.inr ⟨id, left (consistent.fewerSymbols_destroyScope written target)⟩
  | enterScope written scopeId =>
      cases accepted
      refine Or.inr ⟨id, left (fewerSymbols_of_table fun space => ?_)⟩
      cases space <;> unfold Registry.enterScope <;> split <;> rfl
  | exitScope written target =>
      cases accepted
      refine Or.inr ⟨id, left (fewerSymbols_of_table fun space => ?_)⟩
      cases space <;> unfold Registry.exitScope <;> split <;> rfl
  | clearDocument written =>
      cases accepted
      exact Or.inr ⟨id, left (fewerSymbols_clearDocument registry written)⟩

end Moment

/-! ## Runs -/

namespace Dispatch

/-- The last moment of a chronicle with a property, and what came since. -/
structure LastWith
    (history : List Moment)
    (Holds : Moment → Prop)
    (moment : Moment)
    (since : List Moment) :
    Prop where
  among : ∃ earlier, history = earlier ++ moment :: since
  holds : Holds moment
  last : ∀ later ∈ since, ¬Holds later

variable {history since : List Moment} {moment next : Moment} {Holds : Moment → Prop}

theorem lastWith_now (history : List Moment) (holds : Holds next) :
    LastWith (history ++ [next]) Holds next [] :=
  ⟨⟨history, rfl⟩, holds, fun _ none => absurd none List.not_mem_nil⟩

theorem LastWith.append
    (last : LastWith history Holds moment since)
    (not : ¬Holds next) :
    LastWith (history ++ [next]) Holds moment (since ++ [next]) where
  among := by
    obtain ⟨earlier, rfl⟩ := last.among
    exact ⟨earlier, by simp⟩
  holds := last.holds
  last := by
    intro later member
    rcases List.mem_append.mp member with before | same
    · exact last.last later before
    · rw [List.mem_singleton.mp same]
      exact not

/-- What the history tells of the kind of a scope: it is the one that the scope was last created
with. -/
def TellsScope (history : List Moment) (document id : String) (kind : ScopeKind) : Prop :=
  ∃ moment since,
    LastWith history (fun moment => (moment.created? document id).isSome) moment since ∧
      moment.created? document id = some kind

/-- What the history tells of the kind on a symbol that a scope owns: it is the one that the scope
had when the symbol was last declared, and the present one unless the scope was created since. -/
def TellsSymbol
    (history : List Moment)
    (space : Namespace)
    (document id : String)
    (key : SymbolKey)
    (kind : ScopeKind)
    (present : Option ScopeKind) :
    Prop :=
  ∃ moment since, LastWith history (Moment.Declares space document key) moment since ∧
    moment.registry.kindAt? document id = some kind ∧
    ((∀ later ∈ since, later.created? document id = none) → present = some kind)

/-- The kinds of the scopes of a document, and those on their symbols, are what the history
tells. -/
structure KindsTold (history : List Moment) (registry : Registry) (document : String) : Prop where
  scope : ∀ id kind, registry.kindAt? document id = some kind →
    TellsScope history document id kind
  symbol : ∀ space id symbol,
    symbol ∈ (registry.table space).list document → symbol.scopeId = some id →
      TellsSymbol history space document id symbol.key symbol.scopeKind
        (registry.kindAt? document id)

theorem kindsTold_empty (document : String) : KindsTold [] ∅ document where
  scope := by
    intro id kind stored
    cases stored
  symbol := by
    intro space id symbol member
    cases space <;> cases member

variable {registry after : Registry} {document : String} {operation : Operation}
  {events : List Event}

/-- An operation that is carried out goes on telling the kinds. -/
theorem KindsTold.append
    (told : KindsTold history registry document)
    (consistent : registry.Consistent)
    (accepted : operation.effect registry = .ok (after, events)) :
    KindsTold (history ++ [⟨registry, operation⟩]) after document where
  scope := by
    intro id kind now
    rcases Moment.kindAt?_of_effect consistent operation accepted now with
      created | ⟨idle, before⟩
    · exact ⟨_, _, lastWith_now history (by simp [created]), created⟩
    · obtain ⟨moment, since, last, created⟩ := told.scope id kind before
      exact ⟨_, _, last.append (by simp [idle]), created⟩
  symbol := by
    intro space id symbol member owner
    have owned := (consistent.effect operation accepted document).owned space
    have now := ((owned.mem_listIn_iff _ symbol).mp
      (List.mem_filter.mpr ⟨member, beq_self_eq_true _⟩)).1
    obtain ⟨scope, stored⟩ := (owned.placed _ symbol now).owner id owner
    have present : after.kindAt? document id = some scope.kind := by
      rw [Registry.kindAt?, kindOf?, stored]
      rfl
    -- A scope that is not created in between has the kind that it had before.
    have kept : Moment.created? document id ⟨registry, operation⟩ = none →
        after.kindAt? document id = registry.kindAt? document id := by
      intro idle
      rcases Moment.kindAt?_of_effect consistent operation accepted present with
        created | ⟨-, before⟩
      · rw [idle] at created
        cases created
      · rw [present, before]
    rcases Moment.symbol_of_effect consistent operation accepted now with
      ⟨declares, kind⟩ | ⟨idle, before, found, same⟩
    · refine ⟨_, _, lastWith_now history declares, kind id owner, fun _ => ?_⟩
      rw [kept declares.created?_eq_none]
      exact kind id owner
    · have ownedBefore := (consistent document).owned space
      have keyed := (ownedBefore.placed _ before found).keyed
      have ownerBefore : before.scopeId = some id :=
        (congrArg SymbolKey.scopeId keyed).trans owner
      have listed := (List.mem_filter.mp ((ownedBefore.mem_listIn_iff before.scopeId before).mpr
        ⟨keyed ▸ found, rfl⟩)).1
      obtain ⟨moment, since, last, kind, still⟩ := told.symbol space id before listed ownerBefore
      rw [keyed] at last
      rw [same] at kind still
      refine ⟨moment, _, last.append idle, kind, fun untouched => ?_⟩
      rw [List.forall_mem_append, List.forall_mem_singleton] at untouched
      rw [kept untouched.2]
      exact still untouched.1

/-- In every run the kind on a symbol is the one that its scope had at the last declaration of the
symbol, which is the present one unless the scope was created anew since; and a scope has the kind
that it was last created with. -/
theorem Chronicle.kindsTold
    {dispatch : Dispatch}
    (chronicle : Chronicle history dispatch)
    (document : String) :
    KindsTold history dispatch.registry document := by
  induction chronicle with
  | start => exact kindsTold_empty document
  | operate past operation accepted told =>
      exact told.append past.reachable.registry.consistent accepted
  | clearAll past told => exact told
  | @clear history registry cleared tasks past told =>
      have accepted : (Operation.clearDocument cleared).effect registry =
          .ok (registry.clearDocument cleared).effect := rfl
      exact told.append past.reachable.registry.consistent accepted
  | told past told => exact told

end Dispatch

/-- A variable is declared in a loop, and the loop is created again as a function. -/
def Operation.recasting : List Operation :=
  [.createScope "main" (.fresh "body" .loop none none),
    .declare .vars "main" { Symbol.ofVariable "x" .number with scopeId := some "body" },
    .createScope "main" (.fresh "body" .function none none)]

theorem Dispatch.kindsTold_while_recasting :
    Chronicle (recording Operation.recasting).1 (recording Operation.recasting).2 ∧
      (recording Operation.recasting).2.registry.kindAt? "main" "body" = some .function ∧
      ((recording Operation.recasting).2.registry.vars.list "main").map Symbol.scopeKind =
        [.loop] ∧
      KindsTold (recording Operation.recasting).1 (recording Operation.recasting).2.registry
        "main" :=
  ⟨chronicle_recording _, by decide +kernel, by decide +kernel,
    Chronicle.kindsTold (chronicle_recording _) "main"⟩

/-- The variable keeps the kind that its scope has no longer. -/
theorem Dispatch.kind_outdated :
    (asking Operation.recasting).Reachable ∧
      ∃ symbol ∈ (asking Operation.recasting).registry.vars.list "main",
        symbol.scopeId = some "body" ∧ symbol.scopeKind = .loop ∧
          (asking Operation.recasting).registry.scopes.kindOf "main" symbol.scopeId =
            .function :=
  ⟨reachable_asking _, by decide +kernel⟩

end LuauNodes
