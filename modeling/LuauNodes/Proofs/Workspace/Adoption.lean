import LuauNodes.Proofs.Workspace.Delivery

/-!
# Taking over a change

An operation in a workspace whose listeners look on comes to its end with the
change of the registry taken over, and with everything else that is held as it
was.  An activity that may fail leaves a workspace in either case, and what it
leaves is found by the same steps.
-/

namespace LuauNodes.Act

variable {η α β : Type} {tell : Event → Act η Unit} {Calm : η → Prop}
variable {before : Workspace η}

/-- A registry was taken over and told of; the mounts and the bindings are as they were. -/
structure Adopted
    (Calm : η → Prop)
    (before : Workspace η)
    (registry : Registry)
    (after : Workspace η) :
    Prop where
  registry : after.registry = registry
  mounts : after.mounts = before.mounts
  bindings : after.bindings = before.bindings
  calm : Calm after.rest

theorem LooksOn.ensures_events
    (looksOn : LooksOn tell Calm)
    (calm : Calm before.rest)
    (events : List Event) :
    (events.forM tell).Ensures before fun _ after =>
      Adopted Calm before before.registry after := by
  refine (looksOn.ensures_told calm events).mono ?_
  rintro _ after ⟨-, same, calmStill⟩
  exact ⟨same.registry, same.mounts, same.bindings, calmStill⟩

theorem LooksOn.ensures_perform
    (looksOn : LooksOn tell Calm)
    (calm : Calm before.rest)
    (operation : Registry → Change α) :
    (Act.perform tell operation).Ensures before fun result after =>
      result = (operation before.registry).result ∧
        Adopted Calm before (operation before.registry).registry after := by
  have calmStill : Calm (before.adopt (operation before.registry)).rest := calm
  rw [Act.ensures_perform]
  refine (looksOn.ensures_events calmStill _).mono ?_
  rintro _ after ⟨registry, mounts, bindings, calmAfter⟩
  exact ⟨rfl, registry, mounts, bindings, calmAfter⟩

/-- A scope that is not refused is followed. -/
theorem LooksOn.ensures_createScope
    (looksOn : LooksOn tell Calm)
    (calm : Calm before.rest)
    {document : String}
    {scope : Scope}
    {change : Change (Option Scope)}
    (created : before.registry.createScope document scope = .ok change) :
    (Act.createScope tell document scope).Ensures before fun watch after =>
      watch.isSome = change.result.isSome ∧ Adopted Calm before change.registry after := by
  have told : ∀ committed : Workspace η, committed.registry = change.registry →
      committed.mounts = before.mounts → committed.bindings = before.bindings →
      committed.rest = before.rest →
      (change.events.forM tell).Ensures committed fun _ after =>
        Adopted Calm before change.registry after := by
    intro committed registry mounts bindings rest
    refine (looksOn.ensures_events (rest ▸ calm) change.events).mono ?_
    rintro _ after ⟨registryToo, mountsToo, bindingsToo, calmStill⟩
    exact ⟨registryToo.trans registry, mountsToo.trans mounts, bindingsToo.trans bindings,
      calmStill⟩
  unfold Act.createScope
  simp only [ensures_bind, ensures_registry, created, ensures_ofTree_ok, ensures_commit,
    ensures_pure]
  cases change.result with
  | none =>
      refine (ensures_pure _ _).mpr (Ensures.mono (told _ ?_ ?_ ?_ ?_) ?_)
      case refine_5 => exact fun _ after adopted => ⟨rfl, adopted⟩
      all_goals rfl
  | some stored =>
      simp only [Option.mapM_some, follow, ensures_map, ensures_bind, ensures_get, ensures_modify,
        ensures_pure]
      refine Ensures.mono (told _ ?_ ?_ ?_ ?_) ?_
      case refine_5 => exact fun _ after adopted => ⟨rfl, adopted⟩
      all_goals rfl

/-- Nobody is told of anything. -/
def unheard : Event → Act η Unit := fun _ => pure ()

theorem looksOn_unheard : LooksOn (unheard : Event → Act η Unit) fun _ => True :=
  fun _ before _ => (ensures_pure () _).mpr ⟨.refl before, trivial⟩

/-! ## Activities that may fail -/

/-- Whether it fails or not, an activity leaves a workspace that satisfies a condition. -/
def Leaves (activity : Act η α) (before : Workspace η) (post : Workspace η → Prop) : Prop :=
  post (activity.outcome before).2

section Leaving

variable {activity : Act η α} {post : Workspace η → Prop}

theorem Ensures.leaves
    (ensured : activity.Ensures before fun _ after => post after) :
    activity.Leaves before post := by
  obtain ⟨answer, after, ended, holds⟩ := ensured
  rw [Leaves, ended]
  exact holds

theorem Leaves.mono
    {weaker : Workspace η → Prop}
    (left : activity.Leaves before post)
    (implies : ∀ after, post after → weaker after) :
    activity.Leaves before weaker :=
  implies _ left

/-- A first part that does not fail leaves the rest to be done. -/
theorem Ensures.leaves_bind
    {next : α → Act η β}
    (first : activity.Ensures before fun answer middle => (next answer).Leaves middle post) :
    (activity >>= next).Leaves before post := by
  obtain ⟨answer, middle, ended, rest⟩ := first
  rw [Leaves, outcome_bind, ended]
  exact rest

/-- A value that cannot be read ends an activity as it stands. -/
theorem leaves_ofChecked_bind
    {checked : Record.Checked α}
    {next : α → Act η β}
    (unread : post before)
    (read : ∀ value, checked = .ok value → (next value).Leaves before post) :
    (ofChecked checked >>= next : Act η β).Leaves before post := by
  cases checked with
  | bad faults => exact unread
  | ok value => exact read value rfl

theorem Leaves.map
    (left : activity.Leaves before post)
    (f : α → β) :
    (f <$> activity).Leaves before post := by
  rw [← bind_pure_comp, Leaves, outcome_bind]
  unfold Leaves at left
  rcases ended : activity.outcome before with ⟨_ | answer, after⟩
  · rw [ended] at left
    exact left
  · rw [ended] at left
    exact left

end Leaving

end LuauNodes.Act
