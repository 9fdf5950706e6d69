import LuauNodes.Proofs.Registry.Layout
import LuauNodes.Proofs.Registry.Slots
import LuauNodes.Proofs.Registry.Tidiness

/-!
# What a document is left with

A document holds nothing once it has neither scopes nor global symbols, as every
other symbol is owned by a stored scope.  Here is what the operations make of the
two, and of the stack of a document in which no scope is active.
-/

namespace LuauNodes.Registry

open OrderedMap
open ScopeTree (Forest ParentChain)

variable {registry : Registry} {document : String}

/-- A global symbol of a namespace is stored under a name. -/
def HasGlobal (registry : Registry) (document : String) (space : Namespace) (name : String) :
    Prop :=
  (((registry.table space).entries document).get? ⟨none, name⟩).isSome = true

/-! ## Documents that are left with nothing -/

theorem Bare.entries_table (bare : registry.Bare document) (space : Namespace) :
    (registry.table space).entries document = ∅ :=
  eq_empty_of_isEmpty (List.isEmpty_iff.mpr (List.map_eq_nil_iff.mp (bare.symbols space)))

theorem Bare.not_hasGlobal
    (bare : registry.Bare document)
    (space : Namespace)
    (name : String) :
    ¬ registry.HasGlobal document space name := by
  rw [HasGlobal, bare.entries_table]
  exact Bool.false_ne_true

/-- Without scopes there are no symbols but global ones. -/
theorem ConsistentAt.bare
    {pending : List (Option String)}
    (consistent : registry.ConsistentAt document pending)
    (scopes : ∀ id, registry.scopes.has document (some id) = false)
    (globals : ∀ space name, ¬ registry.HasGlobal document space name) :
    registry.Bare document where
  scopes := by
    refine List.eq_nil_iff_forall_not_mem.mpr fun scope listed => ?_
    have stored := (consistent.mem_list_iff scope).mp listed
    rw [(ScopeTree.has_some_eq_false_iff _ _ _).mp (scopes scope.id)] at stored
    cases stored
  symbols := by
    intro space
    refine List.eq_nil_iff_forall_not_mem.mpr fun symbol listed => ?_
    have owned := consistent.owned space
    obtain ⟨key, stored⟩ := (owned.distinct.mem_values_iff symbol).mp listed
    have placed := owned.placed key symbol stored
    cases scopeId : symbol.scopeId with
    | none =>
        refine globals space symbol.name ?_
        have keyed : key = ⟨none, symbol.name⟩ := by
          rw [← placed.keyed, Symbol.key, scopeId]
        rw [HasGlobal, ← keyed, stored]
        rfl
    | some id =>
        obtain ⟨scope, owner⟩ := placed.owner id scopeId
        rw [(ScopeTree.has_some_eq_false_iff _ _ _).mp (scopes id)] at owner
        cases owner

/-! ## Declaring and removing -/

/-- A symbol that is declared may be a new global one. -/
theorem hasGlobal_of_declare
    {space other : Namespace}
    {symbol : Symbol}
    {name : String}
    (held : (registry.declare space document symbol).registry.HasGlobal document other name) :
    registry.HasGlobal document other name ∨
      space = other ∧ symbol.scopeId = none ∧ symbol.name = name := by
  have filled : (registry.declare space document symbol).registry.Fills
      ⟨other, document, ⟨none, name⟩⟩ := held
  rcases fills_of_declare filled with before | same
  · exact Or.inl before
  · obtain ⟨rfl, -, keyed⟩ := Slot.mk.inj same
    obtain ⟨outside, named⟩ := SymbolKey.mk.inj keyed
    exact Or.inr ⟨rfl, outside.symm, named.symm⟩

/-- A global symbol is accepted under a name that is not blank. -/
theorem result_declare_of_global
    {space : Namespace}
    {symbol : Symbol}
    (named : Text.isBlankText symbol.name = false)
    (outside : symbol.scopeId = none) :
    (registry.declare space document symbol).result.map Symbol.name = some symbol.name := by
  unfold Registry.declare
  rw [if_neg (by simp [named])]
  split
  · rename_i owner _
    rw [outside] at owner
    cases owner
  · rfl

/-- A symbol that is removed is gone, and no other one is new. -/
theorem hasGlobal_of_remove
    {space other : Namespace}
    {removed name : String}
    {scopeId : Option String}
    (held : (registry.remove space document removed scopeId).registry.HasGlobal document other
      name) :
    registry.HasGlobal document other name ∧
      ¬ (space = other ∧ scopeId = none ∧ removed = name) := by
  obtain ⟨before, apart⟩ := (fills_remove registry space document removed scopeId
    ⟨other, document, ⟨none, name⟩⟩).mp held
  refine ⟨before, ?_⟩
  rintro ⟨rfl, rfl, rfl⟩
  exact apart rfl

/-! ## Scopes -/

theorem hasGlobal_createScope
    {scope : Scope}
    {change : Change (Option Scope)}
    (created : registry.createScope document scope = .ok change)
    (space : Namespace)
    (name : String) :
    change.registry.HasGlobal document space name ↔ registry.HasGlobal document space name := by
  rcases exists_setEntries_of_createScope created with same | ⟨scopes, -, same⟩
  · rw [same]
  · rw [same, HasGlobal, table_syncMembers]
    cases space <;> rfl

theorem ConsistentAt.hasGlobal_of_destroyScope
    {pending : List (Option String)}
    (consistent : registry.ConsistentAt document pending)
    {id : String}
    {space : Namespace}
    {name : String}
    (held : (registry.destroyScope document id).registry.HasGlobal document space name) :
    registry.HasGlobal document space name := by
  cases found : (registry.scopes.entries document).get? id with
  | none =>
      rw [destroyScope_of_missing found] at held
      exact held
  | some scope =>
      have released := ((consistent.releasedIn_destroyScope found).here space).kept ⟨none, name⟩
      rw [HasGlobal, released, table_withScopes] at held
      split at held
      · cases held
      · exact held

theorem ConsistentAt.has_of_destroyScope
    {pending : List (Option String)}
    (consistent : registry.ConsistentAt document pending)
    {id other : String}
    (present : (registry.destroyScope document id).registry.scopes.has document (some other) =
      true) :
    registry.scopes.has document (some other) = true ∧ other ≠ id := by
  obtain ⟨outer, chain, apart⟩ := (consistent.has_destroyScope_iff id other).mp present
  refine ⟨(ScopeTree.has_some_eq_true_iff _ _ _).mpr chain.stored, ?_⟩
  rintro rfl
  exact apart List.mem_cons_self

/-- Stored scopes are those with one of the identifiers of their document. -/
theorem has_eq_decide_mem_keys (registry : Registry) (document id : String) :
    registry.scopes.has document (some id) =
      decide (id ∈ (registry.scopes.entries document).keys) := by
  rw [Bool.eq_iff_iff, decide_eq_true_iff, ← contains_iff_mem_keys]
  rfl

theorem has_syncMembers
    (registry : Registry)
    (document : String)
    (scopeId : Option String)
    (other id : String) :
    (registry.syncMembers document scopeId).scopes.has other (some id) =
      registry.scopes.has other (some id) := by
  rw [has_eq_decide_mem_keys, has_eq_decide_mem_keys]
  unfold Registry.syncMembers ScopeTree.setMembers
  split
  · rfl
  · rw [ScopeTree.entries_setEntries]
    split
    · rename_i same
      rw [keys_modify, same]
    · rfl

theorem has_declare
    (registry : Registry)
    (space : Namespace)
    (document : String)
    (symbol : Symbol)
    (other id : String) :
    (registry.declare space document symbol).registry.scopes.has other (some id) =
      registry.scopes.has other (some id) := by
  unfold Registry.declare
  split
  · rfl
  · split
    · rfl
    · rw [has_syncMembers, scopes_setTable]

theorem has_remove
    (registry : Registry)
    (space : Namespace)
    (document name : String)
    (scopeId : Option String)
    (other id : String) :
    (registry.remove space document name scopeId).registry.scopes.has other (some id) =
      registry.scopes.has other (some id) := by
  unfold Registry.remove
  dsimp only
  split
  · rfl
  · rw [has_syncMembers, scopes_setTable]

theorem has_setStack
    (registry : Registry)
    (document : String)
    (stack : List String)
    (other id : String) :
    (registry.scopes.setStack document stack).has other (some id) =
      registry.scopes.has other (some id) := by
  rw [ScopeTree.has, ScopeTree.get?, ScopeTree.entries_setStack]
  rfl

theorem has_enterScope
    (registry : Registry)
    (document : String)
    (scopeId : Option String)
    (other id : String) :
    (registry.enterScope document scopeId).registry.scopes.has other (some id) =
      registry.scopes.has other (some id) := by
  unfold Registry.enterScope
  split
  · exact has_setStack registry document _ other id
  · rfl

theorem has_exitScope (registry : Registry) (document scopeId other id : String) :
    (registry.exitScope document scopeId).registry.scopes.has other (some id) =
      registry.scopes.has other (some id) := by
  unfold Registry.exitScope
  split
  · exact has_setStack registry document _ other id
  · rfl

theorem has_destroyScope_elsewhere
    (registry : Registry)
    (scopeId : String)
    {other : String}
    (apart : document ≠ other)
    (id : String) :
    (registry.destroyScope document scopeId).registry.scopes.has other (some id) =
      registry.scopes.has other (some id) :=
  ((changesOnly_destroyScope scopeId).agreesOn apart).scopes.has (some id)

/-- What is stored once a scope was created was stored before, unless it is the scope itself, which
was not refused then. -/
theorem has_of_createScope
    {scope : Scope}
    {change : Change (Option Scope)}
    (created : registry.createScope document scope = .ok change)
    {other id : String}
    (present : change.registry.scopes.has other (some id) = true) :
    registry.scopes.has other (some id) = true ∨
      other = document ∧ id = scope.id ∧ change.result.isSome = true := by
  have settled : ∀ (scopes : ScopeEntries) (notice : Notice) (written : Registry),
      (∀ id ∈ scopes.keys, id ∈ (registry.scopes.entries document).keys ∨ id = scope.id) →
      written = { registry with scopes := registry.scopes.setEntries document scopes } →
      change = written.settleScope document scope.id notice →
      registry.scopes.has other (some id) = true ∨
        other = document ∧ id = scope.id ∧ change.result.isSome = true := by
    rintro scopes notice _ named rfl rfl
    rw [Registry.settleScope] at present ⊢
    dsimp only at present ⊢
    have held := present
    rw [has_syncMembers, has_eq_decide_mem_keys, decide_eq_true_iff,
      ScopeTree.entries_setEntries] at held
    rw [has_eq_decide_mem_keys, decide_eq_true_iff]
    split at held
    · rename_i same
      subst same
      refine (named id held).imp_right ?_
      rintro rfl
      exact ⟨rfl, rfl, present⟩
    · exact Or.inl held
  unfold Registry.createScope ScopeTree.create at created
  split_ifs at created
  cases refused : registry.scopes.refusal? document scope with
  | error fault => simp [refused] at created
  | ok refusal =>
      cases refusal with
      | some reason =>
          simp only [refused] at created
          cases created
          exact Or.inl present
      | none =>
          cases found : registry.scopes.get? document (some scope.id) with
          | none =>
              simp only [refused, found] at created
              refine settled _ _ _ ?_ rfl (Except.ok.inj created).symm
              intro id among
              rw [ScopeTree.keys_addChild, keys_insert] at among
              split at among
              · exact Or.inl among
              · exact (List.mem_append.mp among).imp_right List.mem_singleton.mp
          | some stored =>
              simp only [refused, found] at created
              refine settled _ _ _ ?_ rfl (Except.ok.inj created).symm
              intro id among
              rw [ScopeTree.keys_addChild, keys_modify, ScopeTree.keys_dropChild] at among
              exact Or.inl among

/-- Once a scope was asked for under a stored one, it is stored, and what was stored before still
is. -/
theorem ConsistentAt.has_createScope
    {pending : List (Option String)}
    (consistent : registry.ConsistentAt document pending)
    {scope : Scope}
    {change : Change (Option Scope)}
    (created : registry.createScope document scope = .ok change)
    (parentStored : ∀ outer, scope.parentId = some outer →
      registry.scopes.has document (some outer) = true)
    {id : String}
    (among : registry.scopes.has document (some id) = true ∨ id = scope.id) :
    change.registry.scopes.has document (some id) = true := by
  have inner : scope.kind ≠ .global := by
    intro outside
    rw [Registry.createScope, ScopeTree.create_eq_error_of_global outside] at created
    cases created
  obtain ⟨creation, settled, settles⟩ := ScopeTree.create_settles consistent.forest inner
  rw [Registry.createScope, settled] at created
  cases settles with
  | parentMissing wanted missing =>
      have stored := parentStored _ wanted
      rw [(ScopeTree.has_some_eq_false_iff _ _ _).mpr missing] at stored
      cases stored
  | cycle wanted found chain below =>
      cases created
      rcases among with stored | rfl
      · exact stored
      · exact (ScopeTree.has_some_eq_true_iff _ _ _).mpr ⟨_, found⟩
  | created fresh parentStored =>
      cases created
      dsimp only [Registry.settleScope]
      rw [has_syncMembers, has_eq_decide_mem_keys, decide_eq_true_iff, ScopeTree.entries_plant,
        if_pos rfl, ScopeTree.keys_addChild, ScopeTree.Forest.planted, keys_insert]
      rw [has_eq_decide_mem_keys, decide_eq_true_iff] at among
      split
      · rename_i inside
        exact among.elim (fun stored => stored) fun same => same ▸ inside
      · exact List.mem_append.mpr (among.imp_right fun same => by simp [same])
  | moved found parentClear =>
      cases created
      dsimp only [Registry.settleScope]
      rw [has_syncMembers, has_eq_decide_mem_keys, decide_eq_true_iff, ScopeTree.entries_move,
        if_pos rfl, ScopeTree.keys_addChild, ScopeTree.Forest.uprooted, keys_modify,
        ScopeTree.keys_dropChild]
      rw [has_eq_decide_mem_keys, decide_eq_true_iff] at among
      refine among.elim (fun stored => stored) fun same => ?_
      rw [same, ← contains_iff_mem_keys, contains, found]
      rfl

/-! ## The stack -/

theorem stack_syncMembers (registry : Registry) (document : String) (scopeId : Option String) :
    (registry.syncMembers document scopeId).scopes.stack document =
      registry.scopes.stack document := by
  show (registry.scopes.setMembers document scopeId _).stack document = _
  unfold ScopeTree.setMembers
  split
  · rfl
  · exact ScopeTree.stack_setEntries _ _ _ _

theorem stack_declare (registry : Registry) (space : Namespace) (document : String)
    (symbol : Symbol) :
    (registry.declare space document symbol).registry.scopes.stack document =
      registry.scopes.stack document := by
  unfold Registry.declare
  split
  · rfl
  · split
    · rfl
    · rw [stack_syncMembers, scopes_setTable]

theorem stack_remove (registry : Registry) (space : Namespace) (document name : String)
    (scopeId : Option String) :
    (registry.remove space document name scopeId).registry.scopes.stack document =
      registry.scopes.stack document := by
  unfold Registry.remove
  dsimp only
  split
  · rfl
  · rw [stack_syncMembers, scopes_setTable]

theorem stack_createScope
    {scope : Scope}
    {change : Change (Option Scope)}
    (created : registry.createScope document scope = .ok change) :
    change.registry.scopes.stack document = registry.scopes.stack document := by
  rcases exists_setEntries_of_createScope created with same | ⟨scopes, -, same⟩
  · rw [same]
  · rw [same, stack_syncMembers]
    exact ScopeTree.stack_setEntries _ _ _ _

theorem exitScope_of_inactive
    (inactive : registry.scopes.stack document = [])
    (id : String) :
    (registry.exitScope document id).registry = registry := by
  rw [exitScope, ScopeTree.isActive, inactive]
  rfl

theorem ConsistentAt.stack_destroyScope
    {pending : List (Option String)}
    (consistent : registry.ConsistentAt document pending)
    (inactive : registry.scopes.stack document = [])
    (id : String) :
    (registry.destroyScope document id).registry.scopes.stack document = [] := by
  cases found : (registry.scopes.entries document).get? id with
  | none =>
      rw [destroyScope_of_missing found]
      exact inactive
  | some scope =>
      rw [(consistent.releasedIn_destroyScope found).scopes]
      show (registry.scopes.destroy document id).2.stack document = []
      rw [ScopeTree.stack_destroy _ _ _ found, inactive]
      rfl

end LuauNodes.Registry
