import LuauNodes.Proofs.Registry.Ownership
import LuauNodes.Proofs.Workspace.Keeping
import LuauNodes.Session.Run

/-!
# Bindings side by side

Bindings that are made, brought in step, moved and released in any order, by
callers that write nothing else.  They leak nothing: a slot that was not filled
at the start is filled only as long as it is the slot of a binding.  But the slots
of two bindings may be one, and whichever gives it up first empties it for both.
-/

namespace LuauNodes

/-! ## Edits of bindings -/

namespace Session

open Record

/-- Whatever the fields are, the symbol of a binding has the name and the scope of the binding. -/
theorem key_of_read_draftOf
    {space : Namespace}
    {fields : Fields}
    {scopeId : Option String}
    {wanted : String}
    {symbol : Symbol}
    (built : (draftOf space fields scopeId wanted).read = .ok symbol) :
    symbol.key = ⟨scopeId, wanted⟩ := by
  let owned := Json.putEntry "scope_id" (.ofText? scopeId) fields
  have name : Json.entry? "name" (Json.putEntry "name" (.text wanted) owned) =
      some (.text wanted) := by
    rw [Json.entry?_putEntry, if_pos rfl]
  have owner : Json.entry? "scope_id" (Json.putEntry "name" (.text wanted) owned) =
      some (.ofText? scopeId) := by
    rw [Json.entry?_putEntry, if_neg (by decide), Json.entry?_putEntry, if_pos rfl]
  have read : ∀ absent : Symbol,
      Symbol.readFields (required (.same "name") text (Json.putEntry "name" (.text wanted) owned))
        absent (Json.putEntry "name" (.text wanted) owned) = .ok symbol →
      symbol.key = ⟨scopeId, wanted⟩ := by
    intro absent built
    obtain ⟨named, inside, -⟩ := Symbol.readFields_eq_ok built
    rw [required_same_of_present name] at named
    rw [optional_same_of_present owner] at inside
    have within : Checked.within "scope_id" (nullable text (Json.ofText? scopeId)) =
        .ok scopeId := by
      cases scopeId <;> rfl
    rw [within] at inside
    cases named
    cases inside
    rfl
  unfold draftOf SymbolDraft.read at built
  dsimp only at built
  split at built
  · exact read _ built
  · exact read _ built

end Session

/-- The symbols of a namespace with some fields. -/
def Act.Blueprint.ofFields (space : Namespace) (fields : Record.Fields) : Act.Blueprint where
  build := fun scopeId wanted => (Session.draftOf space fields scopeId wanted).read
  keyed := Session.key_of_read_draftOf

/-- What the owners of bindings ask for. -/
inductive BindingEdit where
  | bind (space : Namespace) (document : String) (scopeId : Option String)
  | sync (place : Nat) (name : Option String) (blueprint : Act.Blueprint)
  | moveTo (place : Nat) (scopeId : Option String)
  | release (place : Nat)

namespace BindingEdit

open Act

variable {η : Type} {tell : Event → Act η Unit} {Calm : η → Prop}
variable {before after start : Workspace η}

/-- The activity that an edit asks for. -/
def act (tell : Event → Act η Unit) : BindingEdit → Act η Unit
  | bind space document scopeId => discard (addBinding space document scopeId)
  | sync place name blueprint => discard (Act.sync tell place name blueprint.build)
  | moveTo place scopeId => Act.moveTo tell place scopeId
  | release place => Act.release tell place

/-- The workspace that an edit leaves, whether it fails or not. -/
def apply (tell : Event → Act η Unit) (before : Workspace η) (edit : BindingEdit) : Workspace η :=
  ((edit.act tell).outcome before).2

/-- The workspace that edits leave which are made one after the other. -/
def run (tell : Event → Act η Unit) (before : Workspace η) (edits : List BindingEdit) :
    Workspace η :=
  edits.foldl (apply tell) before

/-- What an edit makes of the bindings and of the registry. -/
inductive Made (before after : Workspace η) : Prop where
  | nothing
      (registry : after.registry = before.registry)
      (bindings : after.bindings = before.bindings)
  | bound
      (binding : Binding)
      (bare : binding.name = none)
      (registry : after.registry = before.registry)
      (bindings : after.bindings = before.bindings ++ [binding])
  | turned
      {place : Nat}
      {old new : Binding}
      (found : before.bindings[place]? = some old)
      (turns : old.Turns before.registry after.registry new)
      (bindings : ∀ other, after.bindings[other]? =
        if place = other then some new else before.bindings[other]?)

/-- What the user keeps is calm, and the registry is one that some run comes to. -/
structure Settled (Calm : η → Prop) (workspace : Workspace η) : Prop where
  calm : Calm workspace.rest
  reachable : workspace.registry.Reachable

/-- An edit turns one binding into another, or makes a new one, or does nothing. -/
theorem leaves_act
    (looksOn : LooksOn tell Calm)
    (settled : Settled Calm before)
    (edit : BindingEdit) :
    (edit.act tell).Leaves before fun after => Made before after ∧ Settled Calm after := by
  obtain ⟨calm, reachable⟩ := settled
  have idle : Made before before ∧ Settled Calm before := ⟨.nothing rfl rfl, calm, reachable⟩
  have turned : ∀ {place old}, before.bindings[place]? = some old → ∀ after,
      (∃ new, Turned Calm place old new before after) → Made before after ∧ Settled Calm after := by
    rintro place old found after ⟨new, turned⟩
    exact ⟨.turned found turned.turns turned.bindings, turned.calm, turned.reachable⟩
  cases edit with
  | bind space document scopeId =>
      exact ⟨.bound ⟨space, document, scopeId, none⟩ rfl rfl rfl, calm, reachable⟩
  | sync place name blueprint =>
      refine Leaves.map ?_ _
      cases found : before.bindings[place]? with
      | none =>
          refine Ensures.leaves_bind ((ensures_binding? _ _).mpr ?_)
          rw [found]
          exact idle
      | some binding =>
          exact (looksOn.leaves_sync calm reachable found name blueprint).mono (turned found)
  | moveTo place scopeId =>
      cases found : before.bindings[place]? with
      | none =>
          refine Ensures.leaves_bind ((ensures_binding? _ _).mpr ?_)
          rw [found]
          exact idle
      | some binding =>
          refine ((looksOn.ensures_moveTo calm reachable found scopeId).mono ?_).leaves
          exact fun _ => turned found
  | release place =>
      cases found : before.bindings[place]? with
      | none =>
          refine Ensures.leaves_bind ((ensures_binding? _ _).mpr ?_)
          rw [found]
          exact idle
      | some binding =>
          refine ((looksOn.ensures_release calm reachable found).mono ?_).leaves
          exact fun _ after released => turned found after (released.imp fun _ => And.left)

theorem made_apply
    (looksOn : LooksOn tell Calm)
    (settled : Settled Calm before)
    (edit : BindingEdit) :
    Made before (edit.apply tell before) ∧ Settled Calm (edit.apply tell before) :=
  leaves_act looksOn settled edit

/-! ## Bindings leak nothing -/

/-- What is filled was filled at the start, or is the slot of a binding. -/
def AccountsFor (start : Registry) (workspace : Workspace η) : Prop :=
  ∀ slot, workspace.registry.Fills slot →
    start.Fills slot ∨ ∃ binding ∈ workspace.bindings, binding.slot? = some slot

theorem AccountsFor.made
    {start : Registry}
    (accounts : AccountsFor start before)
    (made : Made before after) :
    AccountsFor start after := by
  intro slot filled
  cases made with
  | nothing registry bindings =>
      rw [bindings]
      exact accounts slot (registry ▸ filled)
  | bound binding bare registry bindings =>
      refine (accounts slot (registry ▸ filled)).imp_right ?_
      rintro ⟨other, among, own⟩
      exact ⟨other, bindings ▸ List.mem_append_left _ among, own⟩
  | @turned place old new found turns bindings =>
      rcases turns.filled slot filled with now | ⟨earlier, apart⟩
      · have here : after.bindings[place]? = some new := by rw [bindings, if_pos rfl]
        exact Or.inr ⟨new, List.mem_of_getElem? here, now⟩
      · refine (accounts slot earlier).imp_right ?_
        rintro ⟨other, among, own⟩
        obtain ⟨index, otherAt⟩ := List.mem_iff_getElem?.mp among
        have elsewhere : place ≠ index := by
          rintro rfl
          rw [found, Option.some.injEq] at otherAt
          exact apart (otherAt ▸ own)
        have still : after.bindings[index]? = some other := by
          rw [bindings, if_neg elsewhere, otherAt]
        exact ⟨other, List.mem_of_getElem? still, own⟩

theorem accountsFor_run
    {start : Registry}
    (looksOn : LooksOn tell Calm)
    (settled : Settled Calm before)
    (accounts : AccountsFor start before)
    (edits : List BindingEdit) :
    AccountsFor start (run tell before edits) ∧ Settled Calm (run tell before edits) := by
  induction edits generalizing before with
  | nil => exact ⟨accounts, settled⟩
  | cons edit rest ih =>
      obtain ⟨made, settledStill⟩ := made_apply looksOn settled edit
      exact ih settledStill (accounts.made made)

/-- Some bindings are released one after the other. -/
def releases (places : List Nat) : List BindingEdit := places.map release

/-- A release takes the entry of one binding. -/
theorem bindings_apply_release
    (looksOn : LooksOn tell Calm)
    (settled : Settled Calm before)
    (place : Nat)
    {other : Nat}
    {binding : Binding}
    (found : ((release place).apply tell before).bindings[other]? = some binding) :
    ∃ former, before.bindings[other]? = some former ∧
      (binding.name = none ∨ binding = former ∧ place ≠ other) := by
  revert found
  show (Act.release tell place).Leaves before fun after => after.bindings[other]? = some binding → _
  cases released : before.bindings[place]? with
  | none =>
      refine Ensures.leaves_bind ((ensures_binding? _ _).mpr ?_)
      rw [released]
      intro (found : before.bindings[other]? = some binding)
      refine ⟨binding, found, Or.inr ⟨rfl, ?_⟩⟩
      rintro rfl
      rw [released] at found
      cases found
  | some old =>
      refine ((looksOn.ensures_release settled.calm settled.reachable released).mono ?_).leaves
      rintro _ after ⟨new, turned, bare⟩ found
      rw [turned.bindings] at found
      split at found
      · rename_i same
        rw [Option.some.injEq] at found
        subst same found
        exact ⟨old, released, Or.inl bare⟩
      · rename_i apart
        exact ⟨binding, found, Or.inr ⟨rfl, apart⟩⟩

theorem bindings_run_releases
    (looksOn : LooksOn tell Calm)
    (settled : Settled Calm before)
    (places : List Nat)
    {other : Nat}
    {binding : Binding}
    (found : (run tell before (releases places)).bindings[other]? = some binding) :
    ∃ former, before.bindings[other]? = some former ∧
      (binding.name = none ∨ binding = former ∧ other ∉ places) := by
  induction places generalizing before with
  | nil => exact ⟨binding, found, Or.inr ⟨rfl, List.not_mem_nil⟩⟩
  | cons place rest ih =>
      have settledStill := (made_apply looksOn settled (release place)).2
      obtain ⟨middle, middleAt, later⟩ := ih settledStill found
      obtain ⟨former, formerAt, now⟩ := bindings_apply_release looksOn settled place middleAt
      refine ⟨former, formerAt, ?_⟩
      rcases later with bare | ⟨rfl, notLater⟩
      · exact Or.inl bare
      · refine now.imp_right fun ⟨same, apart⟩ => ⟨same, ?_⟩
        exact fun among => (List.mem_cons.mp among).elim (fun here => apart here.symm) notLater

/-- Bindings that are made, brought in step, moved and released in any order leak nothing: what is
filled after any of these edits was filled at the start or is the slot of a binding, and once no
binding has an entry any more, as when all are released, nothing is filled that was not filled at
the start. -/
theorem leak_nothing
    (looksOn : LooksOn tell Calm)
    (calm : Calm start.rest)
    (reachable : start.registry.Reachable)
    (edits : List BindingEdit) :
    let after := run tell start edits
    let released := run tell after (releases (List.range after.bindings.length))
    (∀ slot, after.registry.Fills slot →
      start.registry.Fills slot ∨ ∃ binding ∈ after.bindings, binding.slot? = some slot) ∧
    ((∀ binding ∈ after.bindings, binding.name = none) →
      ∀ slot, after.registry.Fills slot → start.registry.Fills slot) ∧
    (∀ binding ∈ released.bindings, binding.name = none) ∧
    ∀ slot, released.registry.Fills slot → start.registry.Fills slot := by
  have bareAccounts : ∀ workspace : Workspace η, AccountsFor start.registry workspace →
      (∀ binding ∈ workspace.bindings, binding.name = none) →
      ∀ slot, workspace.registry.Fills slot → start.registry.Fills slot := by
    intro workspace accounts bare slot filled
    refine (accounts slot filled).resolve_right ?_
    rintro ⟨binding, among, own⟩
    rw [Binding.slot?_of_bare (bare binding among)] at own
    cases own
  intro after released
  have atStart : AccountsFor start.registry start := fun slot filled => Or.inl filled
  obtain ⟨accounts, settled⟩ := accountsFor_run looksOn ⟨calm, reachable⟩ atStart edits
  obtain ⟨accountsReleased, -⟩ := accountsFor_run looksOn settled accounts
    (releases (List.range after.bindings.length))
  have bare : ∀ binding ∈ released.bindings, binding.name = none := by
    intro binding among
    obtain ⟨index, found⟩ := List.mem_iff_getElem?.mp among
    obtain ⟨former, formerAt, either⟩ := bindings_run_releases looksOn settled _ found
    refine either.resolve_right fun ⟨_, outside⟩ => outside (List.mem_range.mpr ?_)
    exact (List.getElem?_eq_some_iff.mp formerAt).1
  exact ⟨accounts, bareAccounts after accounts, bare, bareAccounts released accountsReleased bare⟩

/-- Two nodes in a loop declare one variable; one of them moves out of the loop, and the other one
moves to a scope that there is not. -/
def parting : List BindingEdit :=
  [.bind .vars "main" (some "loop"), .bind .vars "main" (some "loop"),
    .sync 0 (some " x") (.ofFields .vars [("type", .text "number")]),
    .sync 1 (some "x ") (.ofFields .vars [("type", .text "string")]),
    .moveTo 0 (some "body"), .moveTo 1 (some "missing")]

theorem leak_nothing_parting :
    let start : Workspace Unit :=
      { Workspace.fresh () with registry := (Dispatch.asking Operation.shadowing).registry }
    let released := run unheard (run unheard start parting) (releases (List.range 2))
    start.registry.Reachable ∧
      (run unheard start parting).registry.Fills ⟨.vars, "main", ⟨some "body", "x"⟩⟩ ∧
      ¬ start.registry.Fills ⟨.vars, "main", ⟨some "body", "x"⟩⟩ ∧
      ∀ slot, released.registry.Fills slot → start.registry.Fills slot := by
  intro start released
  have reachable : start.registry.Reachable :=
    (Dispatch.reachable_asking Operation.shadowing).registry
  refine ⟨reachable, by decide +kernel, by decide +kernel, ?_⟩
  have two : (run unheard start parting).bindings.length = 2 := by decide +kernel
  have leaked := (leak_nothing looksOn_unheard trivial reachable parting).2.2.2
  rwa [two] at leaked

/-! ## Bindings that share an entry -/

/-- Every binding that has a name has its entry. -/
def KeepsEntries (workspace : Workspace η) : Prop :=
  ∀ binding ∈ workspace.bindings, ∀ slot ∈ binding.slot?, workspace.registry.Fills slot

instance (workspace : Workspace η) : Decidable (KeepsEntries workspace) :=
  inferInstanceAs (Decidable (∀ binding ∈ workspace.bindings, _))

/-- No binding gives up a slot that is the slot of another binding too. -/
def Spares (before after : Workspace η) : Prop :=
  ∀ (place other : Nat) (binding rival : Binding) (slot : Slot), place ≠ other →
    before.bindings[place]? = some binding → before.bindings[other]? = some rival →
    binding.slot? = some slot → rival.slot? = some slot →
    ∃ later, after.bindings[place]? = some later ∧ later.slot? = some slot

/-- Every edit of a run is made from a workspace to another one in some way. -/
def Throughout
    (tell : Event → Act η Unit)
    (Holds : Workspace η → Workspace η → Prop) :
    List BindingEdit → Workspace η → Prop
  | [], _ => True
  | edit :: rest, before =>
    Holds before (edit.apply tell before) ∧ Throughout tell Holds rest (edit.apply tell before)

theorem KeepsEntries.turned
    {place : Nat}
    {old new : Binding}
    (keeps : KeepsEntries before)
    (found : before.bindings[place]? = some old)
    (turns : old.Turns before.registry after.registry new)
    (bindings : ∀ other, after.bindings[other]? =
      if place = other then some new else before.bindings[other]?)
    (spares : Spares before after) :
    KeepsEntries after := by
  have own : ∀ slot, new.slot? = some slot → after.registry.Fills slot :=
    turns.own (keeps old (List.mem_of_getElem? found))
  intro binding among slot claimed
  obtain ⟨index, bindingAt⟩ := List.mem_iff_getElem?.mp among
  rw [bindings] at bindingAt
  split at bindingAt
  · rw [Option.some.injEq] at bindingAt
    subst bindingAt
    exact own slot claimed
  · rename_i apart
    have filled := keeps binding (List.mem_of_getElem? bindingAt) slot claimed
    by_cases shared : old.slot? = some slot
    · obtain ⟨later, laterAt, still⟩ :=
        spares place index old binding slot apart found bindingAt shared claimed
      rw [bindings, if_pos rfl, Option.some.injEq] at laterAt
      subst laterAt
      exact own slot still
    · exact turns.kept slot filled shared

theorem spares_of_turned
    {place : Nat}
    {old new : Binding}
    (found : before.bindings[place]? = some old)
    (turns : old.Turns before.registry after.registry new)
    (bindings : ∀ other, after.bindings[other]? =
      if place = other then some new else before.bindings[other]?)
    (keeps : KeepsEntries after) :
    Spares before after := by
  intro one other binding rival slot apart bindingAt rivalAt own shared
  by_cases here : place = one
  · subst here
    rw [found, Option.some.injEq] at bindingAt
    subst bindingAt
    have rivalStill : after.bindings[other]? = some rival := by
      rw [bindings, if_neg apart, rivalAt]
    have filled := keeps rival (List.mem_of_getElem? rivalStill) slot shared
    refine ⟨new, by rw [bindings, if_pos rfl], ?_⟩
    exact (turns.filled slot filled).resolve_right fun both => both.2 own
  · exact ⟨binding, by rw [bindings, if_neg here, bindingAt], own⟩

/-- The entries of all bindings survive an edit just where it spares those that are shared. -/
theorem Made.keepsEntries_iff
    (made : Made before after)
    (keeps : KeepsEntries before) :
    KeepsEntries after ↔ Spares before after := by
  have spares_of_kept : (∀ (place : Nat) binding, before.bindings[place]? = some binding →
      after.bindings[place]? = some binding) → Spares before after :=
    fun kept place _ binding _ _ _ found _ own _ => ⟨binding, kept place binding found, own⟩
  cases made with
  | nothing registry bindings =>
      refine iff_of_true ?_ (spares_of_kept fun _ _ found => bindings ▸ found)
      intro binding among slot own
      exact registry ▸ keeps binding (bindings ▸ among) slot own
  | bound binding bare registry bindings =>
      refine iff_of_true ?_ (spares_of_kept fun place old found => ?_)
      · intro other among slot own
        rw [registry]
        rw [bindings] at among
        rcases List.mem_append.mp among with earlier | last
        · exact keeps other earlier slot own
        · rw [List.mem_singleton.mp last, Binding.slot?_of_bare bare] at own
          cases own
      · obtain ⟨short, -⟩ := List.getElem?_eq_some_iff.mp found
        rw [bindings, List.getElem?_append_left short, found]
  | turned found turns bindings =>
      exact ⟨spares_of_turned found turns bindings, keeps.turned found turns bindings⟩

/-- From a workspace in which every binding has its entry, every binding has it after each edit of
a run, just if no edit gives up an entry that two bindings share. -/
theorem keepsEntries_throughout_iff
    (looksOn : LooksOn tell Calm)
    (calm : Calm before.rest)
    (reachable : before.registry.Reachable)
    (keeps : KeepsEntries before)
    (edits : List BindingEdit) :
    Throughout tell (fun _ after => KeepsEntries after) edits before ↔
      Throughout tell Spares edits before := by
  induction edits generalizing before with
  | nil => exact Iff.rfl
  | cons edit rest ih =>
      obtain ⟨made, settled⟩ := made_apply looksOn ⟨calm, reachable⟩ edit
      have first := made.keepsEntries_iff keeps
      constructor
      · rintro ⟨keepsStill, later⟩
        exact ⟨first.mp keepsStill, (ih settled.calm settled.reachable keepsStill).mp later⟩
      · rintro ⟨spares, later⟩
        have keepsStill := first.mpr spares
        exact ⟨keepsStill, (ih settled.calm settled.reachable keepsStill).mpr later⟩

/-- Two nodes declare variables of their own, until one of them takes the name of the other. -/
def meeting : List BindingEdit :=
  [.bind .vars "main" none, .bind .vars "main" none,
    .sync 0 (some "x") (.ofFields .vars []), .sync 1 (some "y") (.ofFields .vars []),
    .sync 1 (some "x") (.ofFields .vars []), .moveTo 1 none]

theorem keepsEntries_throughout_meeting :
    KeepsEntries (Workspace.fresh ()) ∧
      Throughout unheard (fun _ after => KeepsEntries after) meeting (Workspace.fresh ()) ∧
      Throughout unheard Spares meeting (Workspace.fresh ()) := by
  have keeps : KeepsEntries (Workspace.fresh ()) := by decide
  have throughout : Throughout unheard (fun _ after => KeepsEntries after) meeting
      (Workspace.fresh ()) :=
    ⟨by decide +kernel, by decide +kernel, by decide +kernel, by decide +kernel,
      by decide +kernel, by decide +kernel, trivial⟩
  exact ⟨keeps, throughout, (keepsEntries_throughout_iff looksOn_unheard trivial ⟨[], .start⟩ keeps
    meeting).mp throughout⟩

/-- Two nodes declare one variable, and one of them is released. -/
def deserting : List BindingEdit :=
  [.bind .vars "main" none, .bind .vars "main" none,
    .sync 0 (some "x") (.ofFields .vars []), .sync 1 (some "x") (.ofFields .vars []),
    .release 0]

/-- The node that is not released still has the name of its entry, but the entry is gone. -/
theorem not_keepsEntries_deserting :
    let after := run unheard (Workspace.fresh ()) deserting
    (after.bindings[1]?).bind Binding.slot? = some ⟨.vars, "main", ⟨none, "x"⟩⟩ ∧
      ¬ after.registry.Fills ⟨.vars, "main", ⟨none, "x"⟩⟩ ∧ ¬ KeepsEntries after := by
  intro after
  decide +kernel

end BindingEdit

end LuauNodes
