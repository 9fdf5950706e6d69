import LuauNodes.Proofs.Registry.Slots
import LuauNodes.Proofs.Workspace.Adoption
import LuauNodes.Workspace.Binding

/-!
# What bindings keep

A binding that is brought in step, moved or released turns into another one.
However that ends, it empties no slot but the one that the binding had, and fills
none but the one that it has then; and a binding that had its entry has it still.
-/

namespace LuauNodes

/-- The slot of the entry that a binding has, if it has one. -/
def Binding.slot? (binding : Binding) : Option Slot :=
  binding.name.map fun name => ⟨binding.space, binding.document, ⟨binding.scopeId, name⟩⟩

theorem Binding.slot?_of_bare {binding : Binding} (bare : binding.name = none) :
    binding.slot? = none := by
  rw [slot?, bare, Option.map_none]

theorem Binding.slot?_of_named
    {binding : Binding}
    {name : String}
    (named : binding.name = some name) :
    binding.slot? = some ⟨binding.space, binding.document, ⟨binding.scopeId, name⟩⟩ := by
  rw [slot?, named, Option.map_some]

/-! ## One binding -/

/-- What an edit of a binding makes of it and of the registry. -/
structure Binding.Turns
    (before : Registry)
    (old : Binding)
    (after : Registry)
    (new : Binding) :
    Prop where
  /-- What is filled is the new slot or was filled before, but not as the old one. -/
  filled : ∀ slot, after.Fills slot →
    new.slot? = some slot ∨ before.Fills slot ∧ old.slot? ≠ some slot
  /-- What was filled is filled still, unless it was the old slot. -/
  kept : ∀ slot, before.Fills slot → old.slot? ≠ some slot → after.Fills slot
  /-- A binding that had its entry has its entry. -/
  own : (∀ slot, old.slot? = some slot → before.Fills slot) →
    ∀ slot, new.slot? = some slot → after.Fills slot

namespace Binding

variable {before after : Registry} {old new : Binding}

theorem Turns.refl (registry : Registry) (binding : Binding) :
    binding.Turns registry registry binding where
  filled := by
    intro slot filled
    by_cases own : binding.slot? = some slot
    · exact Or.inl own
    · exact Or.inr ⟨filled, own⟩
  kept := fun _ filled _ => filled
  own := fun kept => kept

/-- Edits of a binding that has no entry in between. -/
theorem Turns.trans
    {middle : Registry}
    {bare : Binding}
    (first : old.Turns before middle bare)
    (second : bare.Turns middle after new)
    (unnamed : bare.name = none) :
    old.Turns before after new := by
  have slotless : ∀ slot, bare.slot? ≠ some slot := by
    intro slot
    rw [slot?_of_bare unnamed]
    exact fun same => by cases same
  constructor
  case filled =>
    intro slot filled
    rcases second.filled slot filled with now | ⟨earlier, -⟩
    · exact Or.inl now
    · exact Or.inr ((first.filled slot earlier).resolve_left (slotless slot))
  case kept =>
    intro slot filled apart
    exact second.kept slot (first.kept slot filled apart) (slotless slot)
  case own =>
    intro _ slot now
    exact second.own (fun other among => (slotless other among).elim) slot now

/-- A binding whose entry is removed has none. -/
theorem turns_remove (registry : Registry) {name : String} (named : old.name = some name) :
    old.Turns registry (registry.remove old.space old.document name old.scopeId).registry
      { old with name := none } where
  filled := by
    intro slot filled
    rw [Registry.fills_remove] at filled
    refine Or.inr ⟨filled.1, ?_⟩
    rw [slot?_of_named named, ne_eq, Option.some.injEq]
    exact fun same => filled.2 same.symm
  kept := by
    intro slot filled apart
    rw [slot?_of_named named, ne_eq, Option.some.injEq] at apart
    exact (Registry.fills_remove _ _ _ _ _ _).mpr ⟨filled, fun same => apart same.symm⟩
  own := by
    intro _ slot now
    rw [slot?_of_bare rfl] at now
    cases now

/-- A binding without an entry may be one of any scope. -/
theorem turns_rehome
    {registry : Registry}
    (bare : ∀ slot, old.slot? = some slot → ¬ registry.Fills slot)
    (scopeId : Option String) :
    old.Turns registry registry { old with scopeId := scopeId } where
  filled := fun slot filled => Or.inr ⟨filled, fun own => bare slot own filled⟩
  kept := fun _ filled _ => filled
  own := by
    intro kept slot now
    cases named : old.name with
    | none =>
        have slotless : Binding.slot? { old with scopeId := scopeId } = none := slot?_of_bare named
        rw [slotless] at now
        cases now
    | some name =>
        have own := slot?_of_named named
        exact (bare _ own (kept _ own)).elim

/-- A binding takes over the name of what is stored for it. -/
theorem turns_declared
    {registry : Registry}
    {symbol : Symbol}
    {change : Change (Option Symbol)}
    (declared : registry.Declared old.space old.document symbol change)
    (inside : symbol.scopeId = old.scopeId)
    (same : ∀ name, old.name = some name →
      name = symbol.name ∧ Text.isBlankText symbol.name = false) :
    old.Turns registry change.registry { old with name := change.result.map Symbol.name } := by
  have slot : ∀ slot, old.slot? = some slot →
      slot = ⟨old.space, old.document, symbol.key⟩ ∧ Text.isBlankText symbol.name = false := by
    intro slot own
    cases named : old.name with
    | none =>
        rw [slot?_of_bare named] at own
        cases own
    | some name =>
        obtain ⟨rfl, visible⟩ := same name named
        rw [slot?_of_named named, Option.some.injEq] at own
        exact ⟨by rw [← own, Symbol.key, inside], visible⟩
  cases declared with
  | stored answer fills =>
      have now : Binding.slot? { old with name := change.result.map Symbol.name } =
          some ⟨old.space, old.document, symbol.key⟩ := by
        rw [slot?_of_named answer, Symbol.key, inside]
      constructor
      case filled =>
        intro other filled
        rcases (fills other).mp filled with earlier | rfl
        · by_cases own : old.slot? = some other
          · exact Or.inl ((slot other own).1 ▸ now)
          · exact Or.inr ⟨earlier, own⟩
        · exact Or.inl now
      case kept => exact fun other filled _ => (fills other).mpr (Or.inl filled)
      case own =>
        intro _ other own
        rw [now, Option.some.injEq] at own
        exact (fills other).mpr (Or.inr own.symm)
  | refused answer unchanged bare =>
      rw [answer, unchanged]
      constructor
      case filled =>
        intro other filled
        refine Or.inr ⟨filled, fun own => ?_⟩
        obtain ⟨rfl, visible⟩ := slot other own
        exact bare visible filled
      case kept => exact fun _ filled _ => filled
      case own =>
        intro _ other own
        cases own

end Binding

/-! ## One binding in a workspace -/

namespace Act

variable {η : Type} {tell : Event → Act η Unit} {Calm : η → Prop}
variable {before after : Workspace η} {place : Nat} {binding old new : Binding}

/-- A binding was turned into another one, and the other bindings are as they were. -/
structure Turned
    (Calm : η → Prop)
    (place : Nat)
    (old new : Binding)
    (before after : Workspace η) :
    Prop where
  calm : Calm after.rest
  reachable : after.registry.Reachable
  turns : old.Turns before.registry after.registry new
  bindings : ∀ other, after.bindings[other]? =
    if place = other then some new else before.bindings[other]?

theorem Turned.refl
    (calm : Calm before.rest)
    (reachable : before.registry.Reachable)
    (found : before.bindings[place]? = some binding) :
    Turned Calm place binding binding before before where
  calm := calm
  reachable := reachable
  turns := .refl before.registry binding
  bindings := by
    intro other
    split
    · rename_i same
      rw [← same, found]
    · rfl

theorem Turned.trans
    {middle : Workspace η}
    {bare : Binding}
    (first : Turned Calm place old bare before middle)
    (second : Turned Calm place bare new middle after)
    (unnamed : bare.name = none) :
    Turned Calm place old new before after where
  calm := second.calm
  reachable := second.reachable
  turns := first.turns.trans second.turns unnamed
  bindings := by
    intro other
    rw [second.bindings other]
    split
    · rfl
    · rename_i apart
      rw [first.bindings other, if_neg apart]

/-- A change of the registry with the change of the binding that belongs to it. -/
theorem Turned.of_modify
    {registry : Registry}
    {f : Binding → Binding}
    (found : before.bindings[place]? = some old)
    (calm : Calm after.rest)
    (reachable : registry.Reachable)
    (taken : after.registry = registry)
    (bindings : after.bindings = before.bindings.modify place f)
    (turns : old.Turns before.registry registry (f old)) :
    Turned Calm place old (f old) before after where
  calm := calm
  reachable := taken ▸ reachable
  turns := taken ▸ turns
  bindings := by
    intro other
    rw [bindings, List.getElem?_modify]
    by_cases same : place = other
    · rw [if_pos same, ← same, found]
      simp
    · simp [same]

@[simp]
theorem ensures_binding? (place : Nat) (post : Option Binding → Workspace η → Prop) :
    (binding? place).Ensures before post ↔ post before.bindings[place]? before := by
  simp [binding?]

theorem LooksOn.ensures_drop
    (looksOn : LooksOn tell Calm)
    (calm : Calm before.rest)
    (binding : Binding)
    (name : String) :
    (drop tell binding name).Ensures before fun _ after =>
      Adopted Calm before
        (before.registry.remove binding.space binding.document name binding.scopeId).registry
        after :=
  (ensures_discard _).mpr ((looksOn.ensures_perform calm _).mono fun _ _ both => both.2)

/-- The entry of a binding is removed, and the binding keeps none. -/
theorem LooksOn.ensures_dropOwn
    (looksOn : LooksOn tell Calm)
    (calm : Calm before.rest)
    (reachable : before.registry.Reachable)
    (found : before.bindings[place]? = some binding)
    {name : String}
    (named : binding.name = some name) :
    (do
      drop tell binding name
      rename place none : Act η Unit).Ensures before fun _ after =>
        Turned Calm place binding { binding with name := none } before after := by
  rw [ensures_bind]
  refine (looksOn.ensures_drop calm binding name).mono fun _ middle adopted => ?_
  have removed := reachable.of_effect
    (.remove binding.space binding.document name binding.scopeId) rfl
  refine (ensures_modify _ _).mpr ?_
  refine Turned.of_modify (f := fun held => { held with name := none }) found adopted.calm removed
    adopted.registry ?_ (Binding.turns_remove before.registry named)
  rw [adopted.bindings]

/-- A symbol is stored for a binding, which takes over its name. -/
theorem LooksOn.ensures_store
    (looksOn : LooksOn tell Calm)
    (calm : Calm before.rest)
    (place : Nat)
    (binding : Binding)
    (symbol : Symbol) :
    let change := before.registry.declare binding.space binding.document symbol
    (store tell place binding symbol).Ensures before fun _ after =>
      Calm after.rest ∧ after.registry = change.registry ∧
        after.bindings = before.bindings.modify place fun held =>
          { held with name := change.result.map Symbol.name } := by
  simp only [store, ensures_bind]
  refine (looksOn.ensures_perform calm _).mono ?_
  rintro _ middle ⟨rfl, adopted⟩
  refine (ensures_modify _ _).mpr ((ensures_pure _ _).mpr ⟨adopted.calm, adopted.registry, ?_⟩)
  rw [adopted.bindings]

/-! ### Bringing a binding in step -/

/-- Builds the symbols of a binding, with the name and the scope that are asked for, if at all. -/
structure Blueprint where
  build : Option String → String → Record.Checked Symbol
  keyed : ∀ {scopeId : Option String} {wanted : String} {symbol : Symbol},
    build scopeId wanted = .ok symbol → symbol.key = ⟨scopeId, wanted⟩

/-- Stores the entry that a binding is to have, if it is to have one. -/
def storeWanted
    (tell : Event → Act η Unit)
    (place : Nat)
    (wanted : String)
    (build : Option String → String → Record.Checked Symbol) :
    Act η (Option Symbol) := do
  if wanted.isEmpty then return none
  let some current ← binding? place | return none
  let symbol ← ofChecked (build current.scopeId wanted)
  store tell place current symbol

/-- An entry with another name is removed, and then the wanted one is stored. -/
theorem sync_eq
    (tell : Event → Act η Unit)
    (place : Nat)
    (name : Option String)
    (build : Option String → String → Record.Checked Symbol) :
    sync tell place name build = (do
      let some binding ← binding? place | return none
      let wanted := Text.strip (name.getD "")
      match binding.name with
      | none => storeWanted tell place wanted build
      | some old =>
        if old != wanted then
          drop tell binding old
          rename place none
        storeWanted tell place wanted build) := by
  unfold sync storeWanted
  refine congrArg (binding? place >>= ·) (funext fun found => ?_)
  rcases found with _ | ⟨space, document, scopeId, _ | old⟩ <;> rfl

theorem LooksOn.leaves_storeWanted
    (looksOn : LooksOn tell Calm)
    (calm : Calm before.rest)
    (reachable : before.registry.Reachable)
    (found : before.bindings[place]? = some binding)
    {name : Option String}
    (same : ∀ old, binding.name = some old → old = Text.strip (name.getD ""))
    (blueprint : Blueprint) :
    (storeWanted tell place (Text.strip (name.getD "")) blueprint.build).Leaves before
      fun after => ∃ new, Turned Calm place binding new before after := by
  have unchanged := Turned.refl calm reachable found
  unfold storeWanted
  split
  · exact ((ensures_pure _ _).mpr ⟨binding, unchanged⟩).leaves
  · rename_i kept
    refine Ensures.leaves_bind ((ensures_binding? _ _).mpr ?_)
    rw [found]
    refine leaves_ofChecked_bind ⟨binding, unchanged⟩ fun symbol built => ?_
    obtain ⟨inside, wanted⟩ := SymbolKey.mk.inj (blueprint.keyed built)
    have visible : Text.isBlankText symbol.name = false := by
      rw [wanted]
      exact Text.isBlankText_strip (Bool.eq_false_iff.mpr kept)
    refine ((looksOn.ensures_store calm place binding symbol).mono ?_).leaves
    rintro _ after ⟨calmStill, registry, bindings⟩
    have declared := reachable.of_effect (.declare binding.space binding.document symbol) rfl
    refine ⟨_, .of_modify found calmStill declared registry bindings ?_⟩
    refine Binding.turns_declared ((reachable.consistent _).declared _ symbol) inside ?_
    intro old named
    exact ⟨(same old named).trans wanted.symm, visible⟩

/-- Whether the symbol can be built or not, a binding that is brought in step turns into one. -/
theorem LooksOn.leaves_sync
    (looksOn : LooksOn tell Calm)
    (calm : Calm before.rest)
    (reachable : before.registry.Reachable)
    (found : before.bindings[place]? = some binding)
    (name : Option String)
    (blueprint : Blueprint) :
    (sync tell place name blueprint.build).Leaves before fun after =>
      ∃ new, Turned Calm place binding new before after := by
  rw [sync_eq]
  refine Ensures.leaves_bind ((ensures_binding? _ _).mpr ?_)
  rw [found]
  dsimp only
  cases named : binding.name with
  | none =>
      refine looksOn.leaves_storeWanted calm reachable found (fun old has => ?_) blueprint
      rw [named] at has
      cases has
  | some old =>
      dsimp only
      split
      · have dropped := looksOn.ensures_dropOwn calm reachable found named
        rw [ensures_bind] at dropped
        refine Ensures.leaves_bind (dropped.mono fun _ middle renamed => ?_)
        refine Ensures.leaves_bind (renamed.mono fun _ last first => ?_)
        have bareAt : last.bindings[place]? = some { binding with name := none } := by
          rw [first.bindings, if_pos rfl]
        refine (looksOn.leaves_storeWanted first.calm first.reachable bareAt
          (fun _ none => by cases none) blueprint).mono ?_
        rintro after ⟨new, second⟩
        exact ⟨new, first.trans second rfl⟩
      · rename_i kept
        refine looksOn.leaves_storeWanted calm reachable found (fun other has => ?_) blueprint
        rw [named, Option.some.injEq] at has
        subst has
        simpa using kept

/-! ### Moving and releasing a binding -/

/-- A binding of another scope, without regard to its entry. -/
theorem LooksOn.ensures_rehome
    (found : before.bindings[place]? = some binding)
    (calm : Calm before.rest)
    (reachable : before.registry.Reachable)
    (bare : ∀ slot, binding.slot? = some slot → ¬ before.registry.Fills slot)
    (scopeId : Option String) :
    (modifyBinding place fun held => { held with scopeId := scopeId }).Ensures before
      fun _ after => Turned Calm place binding { binding with scopeId := scopeId } before after :=
  (ensures_modify _ _).mpr (Turned.of_modify (f := fun held => { held with scopeId := scopeId })
    found calm reachable rfl rfl (Binding.turns_rehome bare scopeId))

/-- A symbol is removed from one scope and stored in another one. -/
theorem LooksOn.ensures_moveEntry
    (looksOn : LooksOn tell Calm)
    (calm : Calm before.rest)
    (reachable : before.registry.Reachable)
    (found : before.bindings[place]? = some binding)
    {name : String}
    (named : binding.name = some name)
    (symbol : Symbol)
    (scopeId : Option String) :
    (do
      drop tell binding name
      modifyBinding place fun held => { held with scopeId := scopeId }
      discard (store tell place binding { symbol with scopeId := scopeId }) :
        Act η Unit).Ensures before fun _ after =>
      ∃ new, Turned Calm place binding new before after := by
  let moved : Symbol := { symbol with scopeId := scopeId }
  rw [ensures_bind]
  refine (looksOn.ensures_drop calm binding name).mono fun _ middle dropped => ?_
  rw [ensures_bind]
  let rehomed : Workspace η :=
    { middle with
      bindings := middle.bindings.modify place fun held => { held with scopeId := scopeId } }
  have calmStill : Calm rehomed.rest := dropped.calm
  refine (ensures_modify _ _).mpr ((ensures_discard _).mpr ?_)
  refine (looksOn.ensures_store calmStill place binding moved).mono ?_
  rintro _ after ⟨calmAfter, registry, bindings⟩
  have removed := reachable.of_effect
    (.remove binding.space binding.document name binding.scopeId) rfl
  rw [← dropped.registry] at removed
  have declared := removed.of_effect (.declare binding.space binding.document moved) rfl
  let turn (held : Binding) : Binding :=
    { held with
      scopeId := scopeId
      name := (middle.registry.declare binding.space binding.document moved).result.map
        Symbol.name }
  have both : after.bindings = before.bindings.modify place turn := by
    rw [bindings, List.modify_modify_eq, dropped.bindings]
    rfl
  refine ⟨turn binding, .of_modify found calmAfter declared registry both ?_⟩
  -- In between the binding has neither its entry nor, as far as the slots go, its name.
  have unnamed := (Binding.turns_remove before.registry named)
  rw [← dropped.registry] at unnamed
  have rehomed := unnamed.trans (Binding.turns_rehome (fun slot own => by cases own) scopeId) rfl
  refine rehomed.trans (Binding.turns_declared ((removed.consistent _).declared _ moved) rfl ?_) rfl
  intro _ none
  cases none

/-- A binding that is moved takes its entry with it, if the entry is still there and the other scope
is stored. -/
theorem LooksOn.ensures_moveTo
    (looksOn : LooksOn tell Calm)
    (calm : Calm before.rest)
    (reachable : before.registry.Reachable)
    (found : before.bindings[place]? = some binding)
    (scopeId : Option String) :
    (moveTo tell place scopeId).Ensures before fun _ after =>
      ∃ new, Turned Calm place binding new before after := by
  unfold moveTo
  rw [ensures_bind, ensures_binding?, found]
  dsimp only
  split
  · exact (ensures_pure _ _).mpr ⟨binding, .refl calm reachable found⟩
  · rw [ensures_bind, ensures_registry]
    cases named : binding.name with
    | none =>
        have bare : ∀ slot, binding.slot? = some slot → ¬ before.registry.Fills slot := by
          intro slot own
          rw [Binding.slot?_of_bare named] at own
          cases own
        dsimp only [Option.bind_none]
        rw [ensures_bind]
        refine (ensures_rehome found calm reachable bare scopeId).mono fun _ after turned => ?_
        exact (ensures_pure _ _).mpr ⟨_, turned⟩
    | some name =>
        dsimp only [Option.bind_some]
        cases entry : (before.registry.table binding.space).lookup? binding.document
            ⟨binding.scopeId, name⟩ with
        | none =>
            have bare : ¬ before.registry.Fills
                ⟨binding.space, binding.document, ⟨binding.scopeId, name⟩⟩ := by
              rw [Registry.Fills, entry]
              exact Bool.false_ne_true
            rw [ensures_bind]
            refine (looksOn.ensures_drop calm binding name).mono fun _ middle dropped => ?_
            have registry := dropped.registry
            rw [Registry.remove_of_not_fills bare] at registry
            simp only [ensures_bind, ensures_pure]
            refine (ensures_modify _ _).mpr ⟨{ binding with scopeId := scopeId }, ?_⟩
            refine Turned.of_modify (f := fun held => { held with scopeId := scopeId }) found
              dropped.calm reachable registry ?_ (Binding.turns_rehome ?_ scopeId)
            · rw [dropped.bindings]
            · intro slot own
              rw [Binding.slot?_of_named named, Option.some.injEq] at own
              rwa [← own]
        | some symbol => exact looksOn.ensures_moveEntry calm reachable found named symbol scopeId

theorem LooksOn.ensures_release
    (looksOn : LooksOn tell Calm)
    (calm : Calm before.rest)
    (reachable : before.registry.Reachable)
    (found : before.bindings[place]? = some binding) :
    (release tell place).Ensures before fun _ after =>
      ∃ new, Turned Calm place binding new before after ∧ new.name = none := by
  unfold release
  rw [ensures_bind, ensures_binding?, found]
  dsimp only
  cases named : binding.name with
  | none => exact (ensures_pure _ _).mpr ⟨binding, .refl calm reachable found, named⟩
  | some name =>
      exact (looksOn.ensures_dropOwn calm reachable found named).mono
        fun _ after turned => ⟨_, turned, rfl⟩

end Act

end LuauNodes
