import LuauNodes.Workspace.Binding
import LuauNodes.Workspace.Mount
import Mathlib.Data.List.Forall2

/-!
# What activities ensure

An activity ensures a condition in a workspace if it ends there without failing
and the condition holds of its answer and of the workspace that it leaves.  The
rules below take an activity apart: what a sequence ensures is what its first
part ensures about the rest, and a loop keeps what each of its rounds keeps.
-/

namespace LuauNodes.Act

variable {η α β : Type}

/-- How an activity ends in a workspace, and what it leaves there. -/
def outcome (activity : Act η α) (before : Workspace η) : Except Failure α × Workspace η :=
  Id.run ((ExceptT.run activity).run before)

/-- An activity ends without failing, with an answer and in a workspace that satisfy a
condition. -/
def Ensures
    (activity : Act η α)
    (before : Workspace η)
    (post : α → Workspace η → Prop) :
    Prop :=
  ∃ answer after, activity.outcome before = (.ok answer, after) ∧ post answer after

theorem outcome_bind (activity : Act η α) (next : α → Act η β) (before : Workspace η) :
    (activity >>= next).outcome before =
      match activity.outcome before with
      | (.ok answer, after) => (next answer).outcome after
      | (.error failure, after) => (.error failure, after) := by
  show Id.run ((ExceptT.run (activity >>= next)).run before) = _
  rw [ExceptT.run_bind, StateT.run_bind]
  unfold outcome
  rcases (ExceptT.run activity).run before with ⟨_ | answer, after⟩ <;> rfl

/-- What an activity leaves where it does not fail is what it ensures. -/
theorem ensures_of_isOk
    {activity : Act η α}
    {before : Workspace η}
    {post : Workspace η → Prop}
    (ends : (activity.outcome before).1.isOk = true)
    (holds : post (activity.outcome before).2) :
    activity.Ensures before fun _ after => post after := by
  rcases ended : activity.outcome before with ⟨failure | answer, after⟩
  · rw [ended] at ends
    cases ends
  · rw [ended] at holds
    exact ⟨answer, after, ended, holds⟩

theorem outcome_tryCatch
    (activity : Act η α)
    (handler : Failure → Act η α)
    (before : Workspace η) :
    (tryCatch activity handler : Act η α).outcome before =
      match activity.outcome before with
      | (.ok answer, after) => (.ok answer, after)
      | (.error failure, after) => (handler failure).outcome after := by
  show Id.run ((ExceptT.run (tryCatch activity handler)).run before) = _
  rw [ExceptT.run_tryCatch, StateT.run_bind]
  unfold outcome
  rcases (ExceptT.run activity).run before with ⟨_ | answer, after⟩ <;> rfl

section Rules

variable {activity : Act η α} {before : Workspace η}

theorem Ensures.mono
    {post weaker : α → Workspace η → Prop}
    (ensured : activity.Ensures before post)
    (implies : ∀ answer after, post answer after → weaker answer after) :
    activity.Ensures before weaker := by
  obtain ⟨answer, after, ends, holds⟩ := ensured
  exact ⟨answer, after, ends, implies answer after holds⟩

/-- What an activity ensures in a workspace is a matter of how it ends there. -/
theorem ensures_congr
    {other : Act η α}
    (same : activity.outcome before = other.outcome before)
    (post : α → Workspace η → Prop) :
    activity.Ensures before post ↔ other.Ensures before post := by
  unfold Ensures
  rw [same]

/-- Of an activity that has ended holds what it ensures. -/
theorem Ensures.of_outcome
    {post : α → Workspace η → Prop}
    {answer : α}
    {after : Workspace η}
    (ensured : activity.Ensures before post)
    (ends : activity.outcome before = (.ok answer, after)) :
    post answer after := by
  obtain ⟨other, last, same, holds⟩ := ensured
  rw [ends] at same
  cases same
  exact holds

theorem Ensures.and
    {post other : α → Workspace η → Prop}
    (ensured : activity.Ensures before post)
    (too : activity.Ensures before other) :
    activity.Ensures before fun answer after => post answer after ∧ other answer after := by
  obtain ⟨answer, after, ends, holds⟩ := ensured
  exact ⟨answer, after, ends, holds, too.of_outcome ends⟩

@[simp]
theorem ensures_pure (value : α) (post : α → Workspace η → Prop) :
    (pure value : Act η α).Ensures before post ↔ post value before := by
  constructor
  · rintro ⟨answer, after, ends, holds⟩
    cases ends
    exact holds
  · exact fun holds => ⟨value, before, rfl, holds⟩

@[simp]
theorem ensures_bind (next : α → Act η β) (post : β → Workspace η → Prop) :
    (activity >>= next).Ensures before post ↔
      activity.Ensures before fun answer middle => (next answer).Ensures middle post := by
  unfold Ensures
  simp only [outcome_bind]
  constructor
  · rintro ⟨last, after, ends, holds⟩
    rcases first : activity.outcome before with ⟨_ | answer, middle⟩
    · rw [first] at ends
      cases ends
    · rw [first] at ends
      exact ⟨answer, middle, rfl, last, after, ends, holds⟩
  · rintro ⟨answer, middle, first, last, after, ends, holds⟩
    rw [first]
    exact ⟨last, after, ends, holds⟩

@[simp]
theorem ensures_map (f : α → β) (post : β → Workspace η → Prop) :
    (f <$> activity).Ensures before post ↔
      activity.Ensures before fun answer after => post (f answer) after := by
  rw [← bind_pure_comp, ensures_bind]
  simp only [ensures_pure]

@[simp]
theorem ensures_discard (post : Unit → Workspace η → Prop) :
    (discard activity).Ensures before post ↔
      activity.Ensures before fun _ after => post () after :=
  ensures_map _ post

@[simp]
theorem ensures_get (post : Workspace η → Workspace η → Prop) :
    (get : Act η (Workspace η)).Ensures before post ↔ post before before := by
  constructor
  · rintro ⟨answer, after, ends, holds⟩
    cases ends
    exact holds
  · exact fun holds => ⟨before, before, rfl, holds⟩

@[simp]
theorem ensures_modify (f : Workspace η → Workspace η) (post : Unit → Workspace η → Prop) :
    (modify f : Act η Unit).Ensures before post ↔ post () (f before) := by
  constructor
  · rintro ⟨answer, after, ends, holds⟩
    cases ends
    exact holds
  · exact fun holds => ⟨(), f before, rfl, holds⟩

@[simp]
theorem ensures_ofTree_ok (value : α) (post : α → Workspace η → Prop) :
    (ofTree (.ok value) : Act η α).Ensures before post ↔ post value before :=
  ensures_pure value post

@[simp]
theorem ensures_registry (post : Registry → Workspace η → Prop) :
    (registry : Act η Registry).Ensures before post ↔ post before.registry before := by
  simp [registry]

@[simp]
theorem ensures_rest (post : η → Workspace η → Prop) :
    (rest : Act η η).Ensures before post ↔ post before.rest before := by
  simp [rest]

@[simp]
theorem ensures_modifyRest (f : η → η) (post : Unit → Workspace η → Prop) :
    (modifyRest f).Ensures before post ↔
      post () { before with rest := f before.rest } :=
  ensures_modify _ post

@[simp]
theorem ensures_note (notices : List Notice) (post : Unit → Workspace η → Prop) :
    (note notices : Act η Unit).Ensures before post ↔
      post () { before with notices := before.notices ++ notices } :=
  ensures_modify _ post

@[simp]
theorem ensures_commit (change : Change α) (post : Unit → Workspace η → Prop) :
    (commit change : Act η Unit).Ensures before post ↔ post () (before.adopt change) :=
  ensures_modify _ post

end Rules

/-! ## Loops -/

/-- What every round of a loop makes of what the rounds before it left holds at the end. -/
theorem ensures_forIn
    {items : List α}
    {body : α → PUnit → Act η (ForInStep PUnit)}
    {before : Workspace η}
    (Kept : List α → Workspace η → Prop)
    (start : Kept [] before)
    (round : ∀ done item rest workspace, items = done ++ item :: rest → Kept done workspace →
      (body item ⟨⟩).Ensures workspace fun step after =>
        step = .yield ⟨⟩ ∧ Kept (done ++ [item]) after) :
    (forIn items PUnit.unit body).Ensures before fun _ after => Kept items after := by
  -- The induction is on what is left of the list.
  have goesOn : ∀ rest done workspace, items = done ++ rest → Kept done workspace →
      (forIn rest PUnit.unit body).Ensures workspace fun _ after => Kept items after := by
    intro rest
    induction rest with
    | nil =>
        intro done workspace whole kept
        rw [List.append_nil] at whole
        rw [List.forIn_nil, ensures_pure, whole]
        exact kept
    | cons item rest ih =>
        intro done workspace whole kept
        rw [List.forIn_cons, ensures_bind]
        refine (round done item rest workspace whole kept).mono ?_
        rintro _ after ⟨rfl, keptStill⟩
        exact ih (done ++ [item]) after (by simp [whole]) keptStill
  exact goesOn items [] before rfl start

/-- What holds with some items to come holds with none at the end, if every round takes care of
one. -/
theorem ensures_forIn_rest
    {items : List α}
    {body : α → PUnit → Act η (ForInStep PUnit)}
    {before : Workspace η}
    (Kept : List α → Workspace η → Prop)
    (start : Kept items before)
    (round : ∀ item rest workspace, Kept (item :: rest) workspace →
      (body item ⟨⟩).Ensures workspace fun step after => step = .yield ⟨⟩ ∧ Kept rest after) :
    (forIn items PUnit.unit body).Ensures before fun _ after => Kept [] after := by
  induction items generalizing before with
  | nil =>
      rw [List.forIn_nil, ensures_pure]
      exact start
  | cons item rest ih =>
      rw [List.forIn_cons, ensures_bind]
      refine (round item rest before start).mono ?_
      rintro _ after ⟨rfl, kept⟩
      exact ih kept

/-- Rounds over some items answer one by one what each of them answers. -/
theorem ensures_mapM
    {items : List α}
    {body : α → Act η β}
    {before : Workspace η}
    (Answers : α → β → Prop)
    (Kept : Workspace η → Prop)
    (start : Kept before)
    (round : ∀ item workspace, Kept workspace →
      (body item).Ensures workspace fun answer after => Answers item answer ∧ Kept after) :
    (items.mapM body).Ensures before fun answers after =>
      List.Forall₂ Answers items answers ∧ Kept after := by
  induction items generalizing before with
  | nil =>
      rw [List.mapM_nil, ensures_pure]
      exact ⟨.nil, start⟩
  | cons item rest ih =>
      rw [List.mapM_cons, ensures_bind]
      refine (round item before start).mono ?_
      rintro answer middle ⟨own, kept⟩
      rw [ensures_bind]
      refine (ih kept).mono ?_
      rintro answers after ⟨others, keptStill⟩
      rw [ensures_pure]
      exact ⟨.cons own others, keptStill⟩

/-- Rounds that all come to one answer come to as many as there are items. -/
theorem ensures_mapM_replicate
    {items : List α}
    {body : α → Act η β}
    {value : β}
    {before : Workspace η}
    (Kept : Workspace η → Prop)
    (start : Kept before)
    (round : ∀ item workspace, Kept workspace →
      (body item).Ensures workspace fun answer after => answer = value ∧ Kept after) :
    (items.mapM body).Ensures before fun answers _ =>
      answers = List.replicate items.length value := by
  refine (ensures_mapM (fun _ answer => answer = value) Kept start round).mono ?_
  rintro answers _ ⟨paired, -⟩
  induction paired with
  | nil => rfl
  | cons same _ ih => rw [same, ih, List.length_cons, List.replicate_succ]

/-- A loop keeps what every round keeps. -/
theorem ensures_forM
    {items : List α}
    {body : α → Act η Unit}
    {before : Workspace η}
    (Kept : Workspace η → Prop)
    (start : Kept before)
    (round : ∀ item ∈ items, ∀ workspace, Kept workspace →
      (body item).Ensures workspace fun _ after => Kept after) :
    (items.forM body).Ensures before fun _ after => Kept after := by
  induction items generalizing before with
  | nil => exact (ensures_pure () _).mpr start
  | cons item rest ih =>
      show ((body item >>= fun _ => rest.forM body) : Act η Unit).Ensures before _
      rw [ensures_bind]
      refine (round item List.mem_cons_self before start).mono fun _ middle kept => ?_
      exact ih kept fun other member => round other (List.mem_cons_of_mem item member)

/-! ## What activities keep -/

/-- In every workspace of some sort an activity ends without failing, and leaves a workspace of that
sort. -/
def Keeps (Kept : Workspace η → Prop) (activity : Act η α) : Prop :=
  ∀ before, Kept before → activity.Ensures before fun _ after => Kept after

section Keeps

variable {Kept : Workspace η → Prop} {activity : Act η α}

theorem keeps_pure (value : α) : Keeps Kept (pure value : Act η α) :=
  fun _ kept => (ensures_pure value _).mpr kept

theorem keeps_get : Keeps Kept (get : Act η (Workspace η)) :=
  fun _ kept => (ensures_get _).mpr kept

theorem Keeps.bind
    {next : α → Act η β}
    (first : Keeps Kept activity)
    (second : ∀ answer, Keeps Kept (next answer)) :
    Keeps Kept (activity >>= next) := by
  intro before kept
  rw [ensures_bind]
  exact (first before kept).mono fun answer middle keptStill => second answer middle keptStill

theorem Keeps.map (kept : Keeps Kept activity) (f : α → β) : Keeps Kept (f <$> activity) :=
  fun before start => (ensures_map f _).mpr (kept before start)

theorem Keeps.discard (kept : Keeps Kept activity) : Keeps Kept (discard activity) :=
  kept.map _

theorem Keeps.forIn_of_mem
    {items : List α}
    {body : α → Act η Unit}
    (round : ∀ item ∈ items, Keeps Kept (body item)) :
    Keeps Kept (forIn items PUnit.unit fun item _ => do
      body item
      pure (ForInStep.yield PUnit.unit)) := by
  intro before start
  refine ensures_forIn (fun _ => Kept) start ?_
  intro done item rest workspace whole kept
  rw [ensures_bind]
  exact (round item (by simp [whole]) workspace kept).mono fun _ after keptStill =>
    (ensures_pure _ _).mpr ⟨rfl, keptStill⟩

theorem Keeps.forIn
    {items : List α}
    {body : α → Act η Unit}
    (round : ∀ item, Keeps Kept (body item)) :
    Keeps Kept (forIn items PUnit.unit fun item _ => do
      body item
      pure (ForInStep.yield PUnit.unit)) :=
  Keeps.forIn_of_mem fun item _ => round item

theorem Keeps.mapM
    {items : List α}
    {body : α → Act η β}
    (round : ∀ item, Keeps Kept (body item)) :
    Keeps Kept (items.mapM body) := by
  induction items with
  | nil =>
      rw [List.mapM_nil]
      exact keeps_pure []
  | cons item rest ih =>
      rw [List.mapM_cons]
      exact (round item).bind fun first => ih.bind fun others => keeps_pure (first :: others)

/-! ### Mounts and bindings -/

section Tells

variable {tell : Event → Act η Unit} {place : Nat}

/-- Declaring in the scope of a mount declares and remembers. -/
theorem Keeps.declareIn
    {symbol : Symbol}
    (declares : ∀ space document scopeId, Keeps Kept
      (perform tell fun registry =>
        registry.declare space document { symbol with scopeId := scopeId }))
    (modifies : ∀ f, Keeps Kept (modifyMount place f)) :
    Keeps Kept (declareIn tell place symbol) := by
  refine (keeps_get.bind fun workspace => keeps_pure workspace.mounts[place]?).bind fun found => ?_
  cases found with
  | none => exact keeps_pure none
  | some mount =>
      dsimp only
      split
      · exact keeps_pure none
      · refine (declares _ _ _).bind fun stored => ?_
        cases stored with
        | none => exact keeps_pure none
        | some declared => exact (modifies _).bind fun _ => keeps_pure (some declared)

/-- Unmounting leaves a scope, removes what was declared through the mount, and destroys. -/
theorem Keeps.unmount
    (exits : ∀ document scopeId, Keeps Kept
      (perform tell fun registry => registry.exitScope document scopeId))
    (removes : ∀ space document name scopeId, Keeps Kept
      (perform tell fun registry => registry.remove space document name scopeId))
    (destroys : ∀ document scopeId, Keeps Kept
      (perform tell fun registry => registry.destroyScope document scopeId))
    (modifies : ∀ f, Keeps Kept (modifyMount place f))
    (notes : ∀ notices, Keeps Kept (note notices)) :
    Keeps Kept (unmount tell place) := by
  refine (keeps_get.bind fun workspace => keeps_pure workspace.mounts[place]?).bind fun found => ?_
  cases found with
  | none => exact keeps_pure ()
  | some mount =>
      dsimp only
      split
      · exact keeps_pure ()
      · refine (modifies _).bind fun _ => (exits _ _).discard.bind fun _ => ?_
        refine (Keeps.forIn fun entry => (removes _ _ _ _).discard).bind fun _ => ?_
        exact (modifies _).bind fun _ => (destroys _ _).discard.bind fun _ => notes _

/-- Bringing a binding in step removes its former entry and declares what is built. -/
theorem Keeps.sync
    {build : Option String → String → Symbol}
    (declares : ∀ space document scopeId name, Keeps Kept
      (perform tell fun registry => registry.declare space document (build scopeId name)))
    (removes : ∀ space document name scopeId, Keeps Kept
      (perform tell fun registry => registry.remove space document name scopeId))
    (renames : ∀ name, Keeps Kept (rename place name))
    (name : Option String) :
    Keeps Kept (sync tell place name fun scopeId wanted => .ok (build scopeId wanted)) := by
  have finds : Keeps Kept (binding? place : Act η (Option Binding)) :=
    keeps_get.bind fun workspace => keeps_pure workspace.bindings[place]?
  unfold Act.sync
  refine finds.bind fun found => ?_
  cases found with
  | none => exact keeps_pure none
  | some binding =>
      extract_lets wanted stores
      have keepsStores : ∀ done, Keeps Kept (stores done) := by
        intro done
        show Keeps Kept (ite _ _ _)
        split
        · exact keeps_pure none
        · refine finds.bind fun found => ?_
          cases found with
          | none => exact keeps_pure none
          | some current =>
              intro before kept
              dsimp only
              rw [ofChecked, ensures_bind, ensures_pure]
              exact (declares _ _ _ _).bind (fun stored =>
                (renames _).bind fun _ => keeps_pure stored) before kept
      dsimp only
      split
      · split
        · exact (removes _ _ _ _).discard.bind fun _ => (renames none).bind keepsStores
        · exact keepsStores ()
      · exact keepsStores ()

/-- Releasing a binding removes its entry. -/
theorem Keeps.release
    (removes : ∀ space document name scopeId, Keeps Kept
      (perform tell fun registry => registry.remove space document name scopeId))
    (renames : Keeps Kept (rename place none)) :
    Keeps Kept (release tell place) := by
  refine (keeps_get.bind fun workspace => keeps_pure workspace.bindings[place]?).bind
    fun found => ?_
  cases found with
  | none => exact keeps_pure ()
  | some binding =>
      dsimp only
      split
      · exact (removes _ _ _ _).discard.bind fun _ => renames
      · exact keeps_pure ()

end Tells

end Keeps

end LuauNodes.Act
