import LuauNodes.Proofs.Registry.GlobalSymbols
import LuauNodes.Proofs.Registry.Revision
import LuauNodes.Proofs.Workspace.Sharing

/-!
# Edits that fail

An edit of a binding fails if the symbol that it asks for cannot be built, or if
the scope that it asks for is not stored.  By the time that this is found out the
binding has given up the slot of its entry, unless the edit asks for that slot
again.  So an edit that fails changes nothing where the binding has no entry or
is to keep its slot, and otherwise it takes the entry away.
-/

namespace LuauNodes

/-! ## Lists of symbols -/

theorem OrderedMap.length_values_erase_lt
    {κ α : Type}
    [DecidableEq κ]
    {map : OrderedMap κ α}
    {key : κ}
    {value : α}
    (found : map.get? key = some value) :
    (map.erase key).values.length < map.values.length := by
  simp only [values, List.length_map, erase]
  rw [List.length_filter_lt_length_iff_exists]
  exact ⟨(key, value), mem_of_lookup_eq_some _ _ _ found, by simp⟩

namespace Registry

variable {registry : Registry} {document : String}

/-- Two registries list the same symbols at the same positions. -/
def SameSymbols (before after : Registry) : Prop :=
  ∀ space document, (after.table space).list document = (before.table space).list document

/-- The registry without the symbol at a slot. -/
def vacate (registry : Registry) (slot : Slot) : Registry :=
  (registry.remove slot.space slot.document slot.key.name slot.key.scopeId).registry

theorem not_fills_vacate (registry : Registry) (slot : Slot) :
    ¬ (registry.vacate slot).Fills slot :=
  fun filled => ((fills_remove _ _ _ _ _ _).mp filled).2 rfl

theorem vacate_of_not_fills {slot : Slot} (bare : ¬ registry.Fills slot) :
    registry.vacate slot = registry :=
  remove_of_not_fills bare

/-- Where a slot is emptied that was filled, fewer symbols are listed. -/
theorem not_sameSymbols_vacate {slot : Slot} (filled : registry.Fills slot) :
    ¬ registry.SameSymbols (registry.vacate slot) := by
  obtain ⟨space, document, scopeId, name⟩ := slot
  obtain ⟨symbol, found⟩ := Option.isSome_iff_exists.mp filled
  have fewer : ((registry.vacate ⟨space, document, ⟨scopeId, name⟩⟩).table space).list document =
      (((registry.table space).entries document).erase ⟨scopeId, name⟩).values := by
    unfold vacate Registry.remove
    dsimp only at found ⊢
    rw [found]
    dsimp only
    rw [table_syncMembers, table_setTable, if_pos rfl, SymbolTable.list, SymbolTable.entries_remove,
      if_pos rfl]
  intro same
  have shorter := OrderedMap.length_values_erase_lt found
  rw [← fewer, same space document] at shorter
  exact Nat.lt_irrefl _ shorter

/-- A symbol of a scope that is not stored is refused. -/
theorem declare_of_missing
    {id : String}
    (missing : registry.scopes.has document (some id) = false)
    (space : Namespace)
    (symbol : Symbol)
    (inside : symbol.scopeId = some id) :
    (registry.declare space document symbol).registry = registry ∧
      (registry.declare space document symbol).result = none := by
  unfold Registry.declare
  rw [inside, missing]
  split <;> exact ⟨rfl, rfl⟩

end Registry

namespace BindingEdit

open Act

variable {η : Type} {tell : Event → Act η Unit} {Calm : η → Prop}
variable {before after : Workspace η} {place : Nat} {binding : Binding}

/-- The slot that an edit asks for on behalf of a binding. -/
def asked? (binding : Binding) : BindingEdit → Option Slot
  | bind .. => none
  | sync _ name _ =>
    some ⟨binding.space, binding.document, ⟨binding.scopeId, Text.strip (name.getD "")⟩⟩
  | moveTo _ scopeId => Binding.slot? { binding with scopeId := scopeId }
  | release _ => none

/-- What an edit that fails leaves of the registry and of the binding at a place. -/
inductive Leaving
    (place : Nat)
    (binding : Binding)
    (asked : Option Slot)
    (before after : Workspace η) :
    Prop where
  | idle
      (registry : after.registry = before.registry)
      (own : ∀ slot, binding.slot? = some slot → before.registry.Fills slot →
        asked = some slot ∧ after.bindings[place]? = some binding)
  | emptied
      {slot : Slot}
      (own : binding.slot? = some slot)
      (filled : before.registry.Fills slot)
      (apart : asked ≠ some slot)
      (registry : after.registry = before.registry.vacate slot)
      (bare : ∃ left, after.bindings[place]? = some left ∧ left.name = none)

/-- Giving up a slot that is not filled changes nothing. -/
theorem leaving_of_vacated
    {asked : Option Slot}
    {slot : Slot}
    (own : binding.slot? = some slot)
    (apart : asked ≠ some slot)
    (registry : after.registry = before.registry.vacate slot)
    (bare : ∃ left, after.bindings[place]? = some left ∧ left.name = none) :
    Leaving place binding asked before after := by
  by_cases filled : before.registry.Fills slot
  · exact .emptied own filled apart registry bare
  · refine .idle (registry.trans (Registry.vacate_of_not_fills filled)) fun other mine there => ?_
    rw [own, Option.some.injEq] at mine
    exact (filled (mine ▸ there)).elim

/-! ## Symbols that cannot be built -/

theorem outcome_binding?_bind
    {α : Type}
    (place : Nat)
    (next : Option Binding → Act η α)
    (before : Workspace η) :
    (binding? place >>= next).outcome before = (next before.bindings[place]?).outcome before := by
  rw [outcome_bind]
  rfl

theorem outcome_rename_bind
    {α : Type}
    (place : Nat)
    (name : Option String)
    (next : Act η α)
    (before : Workspace η) :
    (do rename place name; next).outcome before = next.outcome
      { before with
        bindings := before.bindings.modify place fun held => { held with name := name } } := by
  rw [outcome_bind]
  rfl

/-- Where nothing can be stored, nothing is changed. -/
theorem storeWanted_of_error
    (looksOn : LooksOn tell Calm)
    (calm : Calm before.rest)
    {wanted : String}
    {build : Option String → String → Record.Checked Symbol}
    {failure : Failure}
    (failed : ((storeWanted tell place wanted build).outcome before).1 = .error failure) :
    ((storeWanted tell place wanted build).outcome before).2 = before := by
  revert failed
  unfold storeWanted
  split
  · exact fun _ => rfl
  · rw [outcome_binding?_bind]
    cases before.bindings[place]? with
    | none => exact fun _ => rfl
    | some current =>
        dsimp only
        cases build current.scopeId wanted with
        | bad faults => exact fun _ => rfl
        | ok symbol =>
            obtain ⟨answer, after, ended, -⟩ := looksOn.ensures_store calm place current symbol
            intro failed
            have stored : (store tell place current symbol).outcome before = (.ok answer, after) :=
              ended
            change ((store tell place current symbol).outcome before).1 = _ at failed
            rw [stored] at failed
            cases failed

/-- A binding whose new symbol cannot be built has given up its old one, if that had another
name. -/
theorem leaving_sync
    (looksOn : LooksOn tell Calm)
    (calm : Calm before.rest)
    (found : before.bindings[place]? = some binding)
    {name : Option String}
    {build : Option String → String → Record.Checked Symbol}
    {failure : Failure}
    (failed : ((Act.sync tell place name build).outcome before).1 = .error failure) :
    (Act.sync tell place name build).Leaves before fun after =>
      Leaving place binding
        (some ⟨binding.space, binding.document, ⟨binding.scopeId, Text.strip (name.getD "")⟩⟩)
        before after := by
  unfold Leaves
  rw [sync_eq, outcome_binding?_bind, found] at failed ⊢
  dsimp only at failed ⊢
  cases named : binding.name with
  | none =>
      rw [named] at failed
      dsimp only at failed ⊢
      rw [storeWanted_of_error looksOn calm failed]
      refine .idle rfl fun slot own => ?_
      rw [Binding.slot?_of_bare named] at own
      cases own
  | some old =>
      rw [named] at failed
      dsimp only at failed ⊢
      have own := Binding.slot?_of_named named
      split
      · rename_i apart
        rw [if_pos apart] at failed
        obtain ⟨answer, middle, ended, dropped⟩ := looksOn.ensures_drop calm binding old
        rw [outcome_bind, ended] at failed ⊢
        dsimp only at failed ⊢
        rw [outcome_rename_bind] at failed ⊢
        let unnamed : Workspace η :=
          { middle with
            bindings := middle.bindings.modify place fun held => { held with name := none } }
        have calmStill : Calm unnamed.rest := dropped.calm
        have idle := storeWanted_of_error looksOn calmStill failed
        have left : unnamed.bindings[place]? = some { binding with name := none } := by
          show (middle.bindings.modify place _)[place]? = _
          rw [dropped.bindings, List.getElem?_modify_eq, found]
          rfl
        rw [idle]
        refine leaving_of_vacated own ?_ dropped.registry ⟨_, left, rfl⟩
        intro same
        have wanted : old = Text.strip (name.getD "") := by simpa using same.symm
        simp [wanted] at apart
      · rename_i same
        rw [if_neg same] at failed
        rw [storeWanted_of_error looksOn calm failed]
        refine .idle rfl fun slot mine _ => ⟨?_, found⟩
        rw [← mine, own]
        simp_all

/-! ## Scopes that are not stored -/

/-- A symbol that is removed from its scope cannot be stored in one that there is not. -/
theorem ensures_moveEntry_of_missing
    (looksOn : LooksOn tell Calm)
    (calm : Calm before.rest)
    (place : Nat)
    (binding : Binding)
    (name : String)
    (symbol : Symbol)
    {id : String}
    (missing : before.registry.scopes.has binding.document (some id) = false) :
    (do
      drop tell binding name
      modifyBinding place fun held => { held with scopeId := some id }
      discard (store tell place binding { symbol with scopeId := some id }) :
        Act η Unit).Ensures before fun _ after =>
      after.registry =
          before.registry.vacate ⟨binding.space, binding.document, ⟨binding.scopeId, name⟩⟩ ∧
        after.bindings = before.bindings.modify place fun held =>
          { held with scopeId := some id, name := none } := by
  let moved : Symbol := { symbol with scopeId := some id }
  rw [ensures_bind]
  refine (looksOn.ensures_drop calm binding name).mono fun _ middle dropped => ?_
  let rehomed : Workspace η :=
    { middle with
      bindings := middle.bindings.modify place fun held => { held with scopeId := some id } }
  have calmStill : Calm rehomed.rest := dropped.calm
  have missingStill : rehomed.registry.scopes.has binding.document (some id) = false := by
    show middle.registry.scopes.has binding.document (some id) = false
    rw [dropped.registry, Registry.has_remove, missing]
  obtain ⟨same, refused⟩ :=
    Registry.declare_of_missing missingStill binding.space moved rfl
  rw [ensures_bind, modifyBinding, ensures_modify, ensures_discard]
  refine (looksOn.ensures_store calmStill place binding moved).mono ?_
  rintro _ after ⟨-, registry, bindings⟩
  refine ⟨registry.trans (same.trans dropped.registry), ?_⟩
  rw [bindings, refused, List.modify_modify_eq, dropped.bindings]
  rfl

/-- A binding that is moved to a scope that is not stored has given up its entry, if it had one. -/
theorem leaving_moveTo
    (looksOn : LooksOn tell Calm)
    (calm : Calm before.rest)
    (found : before.bindings[place]? = some binding)
    {id : String}
    (missing : before.registry.scopes.has binding.document (some id) = false) :
    (Act.moveTo tell place (some id)).Leaves before fun after =>
      Leaving place binding (Binding.slot? { binding with scopeId := some id }) before after := by
  refine Ensures.leaves ?_
  unfold Act.moveTo
  rw [ensures_bind, ensures_binding?, found]
  dsimp only
  split
  · rename_i home
    refine (ensures_pure _ _).mpr (.idle rfl fun slot own _ => ⟨?_, found⟩)
    rw [← beq_iff_eq.mp home]
    exact own
  · rename_i away
    rw [ensures_bind, ensures_registry]
    cases named : binding.name with
    | none =>
        dsimp only [Option.bind_none]
        rw [ensures_bind, modifyBinding, ensures_modify]
        refine (ensures_pure _ _).mpr (.idle rfl fun slot own => ?_)
        rw [Binding.slot?_of_bare named] at own
        cases own
    | some name =>
        dsimp only [Option.bind_some]
        have own := Binding.slot?_of_named named
        cases entry : (before.registry.table binding.space).lookup? binding.document
            ⟨binding.scopeId, name⟩ with
        | none =>
            have bare : ¬ before.registry.Fills
                ⟨binding.space, binding.document, ⟨binding.scopeId, name⟩⟩ := by
              rw [Registry.Fills, entry]
              exact Bool.false_ne_true
            rw [ensures_bind]
            refine (looksOn.ensures_drop calm binding name).mono fun _ middle dropped => ?_
            have registry := dropped.registry.trans (Registry.remove_of_not_fills bare)
            rw [ensures_bind, modifyBinding, ensures_modify, ensures_pure]
            refine .idle registry fun slot mine filled => ?_
            rw [own, Option.some.injEq] at mine
            exact (bare (mine ▸ filled)).elim
        | some symbol =>
            refine (ensures_moveEntry_of_missing looksOn calm place binding name symbol
              missing).mono ?_
            rintro _ after ⟨registry, bindings⟩
            have left : after.bindings[place]? =
                some { binding with scopeId := some id, name := none } := by
              rw [bindings, List.getElem?_modify_eq, found]
              rfl
            refine leaving_of_vacated own (fun same => away ?_) registry ⟨_, left, rfl⟩
            rw [Binding.slot?_of_named rfl, Option.some.injEq] at same
            exact beq_iff_eq.mpr (congrArg (fun slot => slot.key.scopeId) same).symm

/-! ## Edits that fail -/

/-- The symbol that an edit of a binding asks for cannot be built, or the scope that it asks for is
not stored. -/
inductive Fails
    (tell : Event → Act η Unit)
    (before : Workspace η)
    (place : Nat)
    (binding : Binding) :
    BindingEdit → Prop where
  | unbuilt
      {name : Option String}
      {blueprint : Blueprint}
      {faults : List Record.Fault}
      (refused : ((Act.sync tell place name blueprint.build).outcome before).1 =
        .error (.invalid faults)) :
      Fails tell before place binding (sync place name blueprint)
  | unstored
      {id : String}
      (missing : before.registry.scopes.has binding.document (some id) = false) :
      Fails tell before place binding (moveTo place (some id))

theorem leaving_of_fails
    (looksOn : LooksOn tell Calm)
    (calm : Calm before.rest)
    (found : before.bindings[place]? = some binding)
    {edit : BindingEdit}
    (fails : Fails tell before place binding edit) :
    Leaving place binding (edit.asked? binding) before (edit.apply tell before) := by
  cases fails with
  | unbuilt refused => exact (leaving_sync looksOn calm found refused).map _
  | unstored missing => exact leaving_moveTo looksOn calm found missing

/-- If a binding had its entry, the one that it turned into has it still, as it was. -/
def KeepsEntry (place : Nat) (binding : Binding) (before after : Workspace η) : Prop :=
  ∀ slot symbol, binding.slot? = some slot → before.registry.symbolAt? slot = some symbol →
    after.registry.symbolAt? slot = some symbol ∧
      ∃ left, after.bindings[place]? = some left ∧ left.slot? = some slot

/-- An edit of a binding that fails leaves the symbols as they are, and the binding its entry, just
if the binding has no entry or if the slot that is asked for is the slot of the entry.  Otherwise
the entry is gone, though nothing took its place, and the binding has no name any more. -/
theorem changesNothing_iff_of_fails
    (looksOn : LooksOn tell Calm)
    (calm : Calm before.rest)
    (found : before.bindings[place]? = some binding)
    {edit : BindingEdit}
    (fails : Fails tell before place binding edit) :
    let after := edit.apply tell before
    let stays := ∀ slot, binding.slot? = some slot → before.registry.Fills slot →
      edit.asked? binding = some slot
    (before.registry.SameSymbols after.registry ↔ stays) ∧
      (KeepsEntry place binding before after ↔ stays) ∧
      (stays → after.registry = before.registry) ∧
      ∀ slot, binding.slot? = some slot → before.registry.Fills slot →
        edit.asked? binding ≠ some slot →
        after.registry = before.registry.vacate slot ∧
          ∃ left, after.bindings[place]? = some left ∧ left.name = none := by
  intro after stays
  have leaving : Leaving place binding (edit.asked? binding) before after :=
    leaving_of_fails looksOn calm found fails
  cases leaving with
  | idle registry own =>
      have stay : stays := fun slot mine filled => (own slot mine filled).1
      have keeps : KeepsEntry place binding before after := by
        intro slot symbol mine held
        rw [registry]
        have filled : before.registry.Fills slot := Option.isSome_iff_exists.mpr ⟨symbol, held⟩
        exact ⟨held, binding, (own slot mine filled).2, mine⟩
      refine ⟨iff_of_true ?_ stay, iff_of_true keeps stay, fun _ => registry, ?_⟩
      · intro space document
        rw [registry]
      · exact fun slot mine filled apart => (apart (stay slot mine filled)).elim
  | @emptied slot own filled apart registry bare =>
      have gone : ¬ stays := fun stay => apart (stay slot own filled)
      have loses : ¬ KeepsEntry place binding before after := by
        intro keeps
        obtain ⟨symbol, held⟩ := Option.isSome_iff_exists.mp filled
        have still := (keeps slot symbol own held).1
        rw [registry] at still
        exact Registry.not_fills_vacate _ _ (Option.isSome_iff_exists.mpr ⟨symbol, still⟩)
      refine ⟨iff_of_false ?_ gone, iff_of_false loses gone, fun stay => (gone stay).elim, ?_⟩
      · rw [registry]
        exact Registry.not_sameSymbols_vacate filled
      · intro other mine _ _
        rw [Option.some.inj (mine.symm.trans own)]
        exact ⟨registry, bare⟩

/-- The variable of a loop is the entry of a binding. -/
def loopVariable : Binding := ⟨.vars, "main", some "loop", some "i"⟩

def looping : Workspace Unit :=
  { Workspace.fresh () with
    registry := (Dispatch.asking Operation.shadowing).registry
    bindings := [loopVariable] }

/-- The variable is to get a type that there is not, under some name. -/
def mistyping (name : String) : BindingEdit :=
  .sync 0 (some name) (.ofFields .vars [("type", .text "numeric")])

theorem changesNothing_mistyping :
    let after := (mistyping " i").apply unheard looping
    looping.bindings[0]? = some loopVariable ∧
      looping.registry.Fills ⟨.vars, "main", ⟨some "loop", "i"⟩⟩ ∧
      Fails unheard looping 0 loopVariable (mistyping " i") ∧
      looping.registry.SameSymbols after.registry ∧ KeepsEntry 0 loopVariable looping after := by
  have fails : Fails unheard looping 0 loopVariable (mistyping " i") := .unbuilt rfl
  have exactly := changesNothing_iff_of_fails looksOn_unheard trivial rfl fails
  have stays : ∀ slot, loopVariable.slot? = some slot → looping.registry.Fills slot →
      (mistyping " i").asked? loopVariable = some slot := by
    rintro slot ⟨⟩ -
    decide +kernel
  exact ⟨rfl, by decide +kernel, fails, exactly.1.mpr stays, exactly.2.1.mpr stays⟩

/-- The variable is lost where it is given another name or another scope, neither of which it can
have. -/
theorem not_changesNothing_mistyping :
    let renamed := (mistyping "j").apply unheard looping
    let moved := (moveTo 0 (some "missing")).apply unheard looping
    looping.bindings[0]? = some loopVariable ∧
      (Fails unheard looping 0 loopVariable (mistyping "j") ∧
        ¬ looping.registry.SameSymbols renamed.registry ∧
        ¬ KeepsEntry 0 loopVariable looping renamed) ∧
      (Fails unheard looping 0 loopVariable (moveTo 0 (some "missing")) ∧
        ¬ looping.registry.SameSymbols moved.registry ∧
        ¬ KeepsEntry 0 loopVariable looping moved) := by
  intro renamed moved
  have loses : ∀ after : Workspace Unit,
      after.registry.symbolAt? ⟨.vars, "main", ⟨some "loop", "i"⟩⟩ = none →
      ¬ KeepsEntry 0 loopVariable looping after := by
    intro after gone keeps
    have held : looping.registry.symbolAt? ⟨.vars, "main", ⟨some "loop", "i"⟩⟩ =
        some { Symbol.ofVariable "i" .string with scopeId := some "loop", scopeKind := .loop } := by
      decide +kernel
    have still := (keeps ⟨.vars, "main", ⟨some "loop", "i"⟩⟩ _ rfl held).1
    rw [gone] at still
    cases still
  refine ⟨rfl, ⟨.unbuilt rfl, ?_, ?_⟩, .unstored (by decide +kernel), ?_, ?_⟩
  · exact fun same => absurd (same .vars "main") (by decide +kernel)
  · exact loses renamed (by decide +kernel)
  · exact fun same => absurd (same .vars "main") (by decide +kernel)
  · exact loses moved (by decide +kernel)

end BindingEdit

end LuauNodes
