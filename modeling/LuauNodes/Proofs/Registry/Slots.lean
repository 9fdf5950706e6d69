import LuauNodes.Proofs.Registry.Creation
import LuauNodes.Proofs.Registry.SymbolSteps

/-!
# Slots

Where declarations are kept.  A slot is a key in a namespace of a document, and
it is filled while a symbol is kept there.  A declaration fills its own slot and
no other one, unless it is refused; a removal empties its own slot and no other.
-/

namespace LuauNodes

open OrderedMap

/-- Where a declaration is kept. -/
structure Slot where
  space : Namespace
  document : String
  key : SymbolKey
  deriving DecidableEq

namespace Registry

variable {registry : Registry} {space : Namespace} {document : String} {slot : Slot}

/-- A symbol is kept at a slot. -/
def Fills (registry : Registry) (slot : Slot) : Prop :=
  ((registry.table slot.space).lookup? slot.document slot.key).isSome = true

instance (registry : Registry) (slot : Slot) : Decidable (registry.Fills slot) :=
  inferInstanceAs (Decidable (_ = true))

theorem fills_syncMembers
    (registry : Registry)
    (document : String)
    (scopeId : Option String)
    (slot : Slot) :
    (registry.syncMembers document scopeId).Fills slot ↔ registry.Fills slot := by
  rw [Fills, Fills, table_syncMembers]

theorem fills_setEntries
    (registry : Registry)
    (space : Namespace)
    (document : String)
    (symbols : SymbolEntries)
    (slot : Slot) :
    (registry.setTable space ((registry.table space).setEntries document symbols)).Fills slot ↔
      if space = slot.space ∧ document = slot.document then (symbols.get? slot.key).isSome = true
      else registry.Fills slot := by
  rw [Fills, table_setTable, SymbolTable.lookup?]
  by_cases here : space = slot.space
  · rw [if_pos here, SymbolTable.entries_setEntries, here]
    by_cases inside : document = slot.document
    · rw [if_pos inside, if_pos ⟨rfl, inside⟩]
    · rw [if_neg inside, if_neg fun both => inside both.2]
      rfl
  · rw [if_neg here, if_neg fun both => here both.1]
    rfl

/-- Removing a symbol empties its slot. -/
theorem fills_remove
    (registry : Registry)
    (space : Namespace)
    (document name : String)
    (scopeId : Option String)
    (slot : Slot) :
    (registry.remove space document name scopeId).registry.Fills slot ↔
      registry.Fills slot ∧ slot ≠ ⟨space, document, ⟨scopeId, name⟩⟩ := by
  unfold Registry.remove
  dsimp only
  split
  · rename_i missing
    refine ⟨fun filled => ⟨filled, ?_⟩, And.left⟩
    rintro rfl
    have present : ((registry.table space).lookup? document ⟨scopeId, name⟩).isSome = true := filled
    rw [missing] at present
    cases present
  · dsimp only
    rw [fills_syncMembers, SymbolTable.remove, fills_setEntries]
    split
    · rename_i here
      obtain ⟨rfl, rfl⟩ := here
      rw [get?_erase]
      split
      · rename_i same
        refine ⟨fun filled => (Bool.false_ne_true filled).elim, fun both => (both.2 ?_).elim⟩
        rw [same]
      · rename_i apart
        refine ⟨fun filled => ⟨filled, ?_⟩, And.left⟩
        exact fun same => apart (congrArg Slot.key same).symm
    · rename_i elsewhere
      refine ⟨fun filled => ⟨filled, ?_⟩, And.left⟩
      rintro rfl
      exact elsewhere ⟨rfl, rfl⟩

/-- A scope that is not stored owns no symbols. -/
theorem ConsistentAt.not_fills_of_missing
    {pending : List (Option String)}
    (consistent : registry.ConsistentAt document pending)
    {id : String}
    (missing : registry.scopes.has document (some id) = false)
    (space : Namespace)
    (name : String) :
    ¬ registry.Fills ⟨space, document, ⟨some id, name⟩⟩ := by
  intro filled
  obtain ⟨symbol, found⟩ := Option.isSome_iff_exists.mp filled
  have placed := (consistent.owned space).placed _ symbol found
  obtain ⟨scope, stored⟩ := placed.owner id (congrArg SymbolKey.scopeId placed.keyed)
  rw [(ScopeTree.has_some_eq_false_iff _ _ _).mp missing] at stored
  cases stored

/-- A symbol that is kept at its key fills that slot. -/
theorem fills_stored
    (registry : Registry)
    (space : Namespace)
    (document : String)
    (symbol : Symbol)
    (slot : Slot) :
    ((registry.setTable space ((registry.table space).declare document symbol)).syncMembers document
        symbol.scopeId).Fills slot ↔
      registry.Fills slot ∨ slot = ⟨space, document, symbol.key⟩ := by
  rw [fills_syncMembers, SymbolTable.declare, fills_setEntries]
  split
  · rename_i here
    obtain ⟨rfl, rfl⟩ := here
    rw [get?_insert]
    split
    · rename_i keyed
      exact ⟨fun _ => Or.inr (by rw [keyed]), fun _ => rfl⟩
    · rename_i apart
      refine ⟨Or.inl, fun either => either.resolve_right ?_⟩
      exact fun same => apart (congrArg Slot.key same).symm
  · rename_i elsewhere
    refine ⟨Or.inl, fun either => either.resolve_right ?_⟩
    rintro rfl
    exact elsewhere ⟨rfl, rfl⟩

/-- What a declaration comes to: its symbol is kept under its name, or it is refused, as its name is
blank or there is no scope for it. -/
inductive Declared
    (registry : Registry)
    (space : Namespace)
    (document : String)
    (symbol : Symbol)
    (change : Change (Option Symbol)) :
    Prop where
  | stored
      (answer : change.result.map Symbol.name = some symbol.name)
      (fills : ∀ slot, change.registry.Fills slot ↔
        registry.Fills slot ∨ slot = ⟨space, document, symbol.key⟩)
  | refused
      (answer : change.result = none)
      (same : change.registry = registry)
      (bare : Text.isBlankText symbol.name = false →
        ¬ registry.Fills ⟨space, document, symbol.key⟩)

theorem ConsistentAt.declared
    {pending : List (Option String)}
    (consistent : registry.ConsistentAt document pending)
    (space : Namespace)
    (symbol : Symbol) :
    Declared registry space document symbol (registry.declare space document symbol) := by
  unfold Registry.declare
  split
  · rename_i blank
    refine .refused rfl rfl fun visible => ?_
    rw [visible] at blank
    cases blank
  · split
    · rename_i id owner missing
      refine .refused rfl rfl fun _ => ?_
      rw [owner] at missing
      rw [Symbol.key, owner]
      exact consistent.not_fills_of_missing missing space symbol.name
    · exact .stored rfl (fills_stored registry space document _)

/-- A declaration fills no slot but its own. -/
theorem fills_of_declare
    {symbol : Symbol}
    (filled : (registry.declare space document symbol).registry.Fills slot) :
    registry.Fills slot ∨ slot = ⟨space, document, symbol.key⟩ := by
  unfold Registry.declare at filled
  split at filled
  · exact Or.inl filled
  · split at filled
    · exact Or.inl filled
    · let stored : Symbol :=
        { symbol with scopeKind := registry.scopes.kindOf document symbol.scopeId }
      exact (fills_stored registry space document stored slot).mp filled

/-- Where nothing is kept there is nothing to remove. -/
theorem remove_of_not_fills
    {name : String}
    {scopeId : Option String}
    (bare : ¬ registry.Fills ⟨space, document, ⟨scopeId, name⟩⟩) :
    (registry.remove space document name scopeId).registry = registry := by
  have missing : (registry.table space).lookup? document ⟨scopeId, name⟩ = none :=
    Option.not_isSome_iff_eq_none.mp bare
  unfold Registry.remove
  dsimp only
  rw [missing]
  rfl

end Registry

end LuauNodes
