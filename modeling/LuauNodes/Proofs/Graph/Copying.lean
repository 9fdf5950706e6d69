import LuauNodes.Proofs.Graph.Holding

/-!
# Analyses in used workspaces

What an analysis does depends on the registry, and not on what else a workspace
holds.  The original is an analysis that is kept alone, in a workspace without
mounts and bindings; an analysis at any attended seat is a copy of it, with its
mounts and bindings behind those that were there before.  An activity copies
another one if it does the same wherever the other one ends without failing.
-/

namespace LuauNodes

variable {α β ι : Type}

/-! ## Lists behind other lists -/

/-- From a place on, a list has what another one has, as far as a part of the entries is
concerned. -/
structure Trails (part : α → β) (front : Nat) (long short : List α) : Prop where
  length : long.length = front + short.length
  alike : ∀ place, long[front + place]?.map part = short[place]?.map part

variable {part : α → β} {front : Nat} {long short : List α}

theorem trails_nil (part : α → β) (long : List α) : Trails part long.length long [] where
  length := rfl
  alike := by
    intro place
    rw [List.getElem?_eq_none (Nat.le_add_right _ _)]
    rfl

theorem Trails.snoc
    (trails : Trails part front long short)
    {last other : α}
    (same : part last = part other) :
    Trails part front (long ++ [last]) (short ++ [other]) where
  length := by
    rw [List.length_append, List.length_append, trails.length, Nat.add_assoc]
    rfl
  alike := by
    intro place
    simp only [List.getElem?_append, trails.length, Nat.add_lt_add_iff_left,
      Nat.add_sub_add_left]
    split
    · exact trails.alike place
    · cases place - short.length with
      | zero => exact congrArg some same
      | succ _ => rfl

theorem Trails.modify
    (trails : Trails part front long short)
    (place : Nat)
    {f : α → α}
    (same : ∀ entry other, part entry = part other → part (f entry) = part (f other)) :
    Trails part front (long.modify (front + place) f) (short.modify place f) where
  length := by
    rw [List.length_modify, List.length_modify, trails.length]
  alike := by
    intro other
    have before := trails.alike other
    simp only [List.getElem?_modify, Nat.add_left_cancel_iff]
    generalize long[front + other]? = found at before ⊢
    generalize short[other]? = foundShort at before ⊢
    rcases found with _ | entry <;> rcases foundShort with _ | original
    · rfl
    · cases before
    · cases before
    · have alike : part entry = part original := Option.some.inj before
      show some (part _) = some (part _)
      split
      · rw [same entry original alike]
      · rw [alike]

/-- A mount without the watch on its scope. -/
def Mount.unwatched (mount : Mount) : Mount := { mount with watch := none }

theorem Mount.eq_of_unwatched
    {mount other : Mount}
    (same : mount.unwatched = other.unwatched) :
    mount = { other with watch := mount.watch } := by
  cases mount
  cases other
  cases same
  rfl

/-- An analysis of which the mounts and the bindings lie behind others. -/
def Analysis.behind (bound mounted : Nat) (analysis : Analysis) : Analysis :=
  { analysis with
    mounts := analysis.mounts.mapValues (mounted + ·)
    declarations := analysis.declarations.mapValues (bound + ·) }

namespace AnalysisSeat

open Act

variable {η : Type}

/-- A workspace in which an analysis is as in another one, where it is kept alone. -/
structure Copied
    (seat : AnalysisSeat η)
    (Calm : η → Prop)
    (bound mounted : Nat)
    (origin : Workspace Analysis)
    (copy : Workspace η) :
    Prop where
  calm : Calm copy.rest
  registry : copy.registry = origin.registry
  mounts : Trails Mount.unwatched mounted copy.mounts origin.mounts
  bindings : Trails id bound copy.bindings origin.bindings
  read : seat.read copy.rest = origin.rest.behind bound mounted

/-- Wherever an activity of an analysis that is kept alone ends without failing, the copy of the
activity ends with an answer that is alike. -/
def Copies
    (seat : AnalysisSeat η)
    (Calm : η → Prop)
    (bound mounted : Nat)
    (Alike : α → β → Prop)
    (copy : Act η α)
    (origin : Act Analysis β) :
    Prop :=
  ∀ before start, seat.Copied Calm bound mounted start before →
    ∀ answer last, origin.outcome start = (.ok answer, last) →
      copy.Ensures before fun copied after =>
        Alike copied answer ∧ seat.Copied Calm bound mounted last after

variable {seat : AnalysisSeat η} {Calm : η → Prop} {bound mounted : Nat}
variable {before : Workspace η} {start : Workspace Analysis}

/-! ## Rules -/

section Rules

variable {Alike : α → β → Prop} {copy : Act η α} {origin : Act Analysis β}

theorem copies_pure {copied : α} {answer : β} (alike : Alike copied answer) :
    seat.Copies Calm bound mounted Alike (pure copied) (pure answer) := by
  intro before start same _ _ ends
  cases ends
  exact (ensures_pure _ _).mpr ⟨alike, same⟩

/-- What fails need not be copied. -/
theorem copies_fail (failure : Failure) :
    seat.Copies Calm bound mounted Alike copy (fail failure) := by
  intro before start _ _ _ ends
  cases ends

theorem Copies.bind
    {γ δ : Type}
    {Later : γ → δ → Prop}
    {next : α → Act η γ}
    {onward : β → Act Analysis δ}
    (first : seat.Copies Calm bound mounted Alike copy origin)
    (second : ∀ copied answer, Alike copied answer →
      seat.Copies Calm bound mounted Later (next copied) (onward answer)) :
    seat.Copies Calm bound mounted Later (copy >>= next) (origin >>= onward) := by
  intro before start same answer last ends
  rw [outcome_bind] at ends
  -- The whole has not failed, and so its first part has not.
  rcases ended : origin.outcome start with ⟨failure | middle, between⟩
  · rw [ended] at ends
    cases ends
  · rw [ended] at ends
    rw [ensures_bind]
    refine (first before start same middle between ended).mono ?_
    rintro copied after ⟨alike, sameStill⟩
    exact second copied middle alike after between sameStill answer last ends

theorem Copies.discard (copies : seat.Copies Calm bound mounted Alike copy origin) :
    seat.Copies Calm bound mounted (fun _ _ => True) (discard copy) (discard origin) :=
  copies.bind fun _ _ _ => copies_pure trivial

end Rules

theorem Copies.forIn
    {items : List ι}
    {copy : ι → Act η Unit}
    {origin : ι → Act Analysis Unit}
    (round : ∀ item,
      seat.Copies Calm bound mounted (fun _ _ => True) (copy item) (origin item)) :
    seat.Copies Calm bound mounted (fun _ _ => True)
      (forIn items PUnit.unit fun item _ => do
        copy item
        pure (ForInStep.yield PUnit.unit))
      (forIn items PUnit.unit fun item _ => do
        origin item
        pure (ForInStep.yield PUnit.unit)) := by
  induction items with
  | nil => exact copies_pure trivial
  | cons item rest ih =>
      rw [List.forIn_cons, List.forIn_cons, bind_assoc, bind_assoc]
      refine (round item).bind fun _ _ _ => ?_
      rw [pure_bind, pure_bind]
      exact ih

theorem Copies.mapM
    {items : List ι}
    {copy : ι → Act η α}
    {origin : ι → Act Analysis α}
    (round : ∀ item, seat.Copies Calm bound mounted Eq (copy item) (origin item)) :
    seat.Copies Calm bound mounted Eq (items.mapM copy) (items.mapM origin) := by
  induction items with
  | nil => exact copies_pure rfl
  | cons item rest ih =>
      rw [List.mapM_cons, List.mapM_cons]
      refine (round item).bind ?_
      rintro first _ rfl
      refine ih.bind ?_
      rintro others _ rfl
      exact copies_pure rfl

/-! ## Single steps -/

theorem copies_get :
    seat.Copies Calm bound mounted (fun copied origin =>
      seat.Copied Calm bound mounted origin copied) get get := by
  intro before start same _ _ ends
  cases ends
  exact (ensures_get _).mpr ⟨same, same⟩

theorem copies_modify
    {f : Workspace η → Workspace η}
    {g : Workspace Analysis → Workspace Analysis}
    (keeps : ∀ before start, seat.Copied Calm bound mounted start before →
      seat.Copied Calm bound mounted (g start) (f before)) :
    seat.Copies Calm bound mounted (fun _ _ => True) (modify f) (modify g) := by
  intro before start same _ _ ends
  cases ends
  exact (ensures_modify _ _).mpr ⟨trivial, keeps before start same⟩

theorem copies_registry : seat.Copies Calm bound mounted Eq registry registry :=
  copies_get.bind fun _ _ same => copies_pure same.registry

theorem copies_note (notices : List Notice) :
    seat.Copies Calm bound mounted (fun _ _ => True) (note notices) (note notices) :=
  copies_modify fun _ _ same =>
    ⟨same.calm, same.registry, same.mounts, same.bindings, same.read⟩

theorem copies_ofTree (answer : Except TreeFault α) :
    seat.Copies Calm bound mounted Eq (ofTree answer) (ofTree answer) := by
  cases answer with
  | error fault => exact copies_fail (.tree fault)
  | ok value => exact copies_pure rfl

theorem copies_ofChecked (checked : Record.Checked α) :
    seat.Copies Calm bound mounted Eq (ofChecked checked) (ofChecked checked) := by
  cases checked with
  | bad faults => exact copies_fail (.invalid faults)
  | ok value => exact copies_pure rfl

theorem copies_current :
    seat.Copies Calm bound mounted (fun copied origin =>
      copied = origin.behind bound mounted) seat.current alone.current := by
  intro before start same _ _ ends
  cases ends
  exact (ensures_current _).mpr ⟨same.read, same⟩

theorem copies_update
    (attended : seat.Attended Calm)
    (f g : Analysis → Analysis)
    (same : ∀ held : Analysis, f (held.behind bound mounted) = (g held).behind bound mounted) :
    seat.Copies Calm bound mounted (fun _ _ => True) (seat.update f) (alone.update g) := by
  intro before start copied _ _ ends
  cases ends
  refine (ensures_update _ _).mpr ⟨trivial, ?_⟩
  refine ⟨attended.calm_write _ _ copied.calm, copied.registry, copied.mounts,
    copied.bindings, ?_⟩
  show seat.read (seat.write _ _) = _
  rw [attended.read_write _ _ copied.calm, copied.read, same]
  rfl

/-! ## Changes of the registry -/

/-- A registry is taken over by both. -/
theorem Copied.adopt
    {registry : Registry}
    {after : Workspace η}
    {last : Workspace Analysis}
    (copied : seat.Copied Calm bound mounted start before)
    (adopts : seat.Adopts Calm before registry after)
    (original : alone.Adopts (fun _ => True) start registry last) :
    seat.Copied Calm bound mounted last after where
  calm := adopts.calm
  registry := adopts.registry.trans original.registry.symm
  mounts := by
    rw [adopts.mounts, original.mounts]
    exact copied.mounts
  bindings := by
    rw [adopts.bindings, original.bindings]
    exact copied.bindings
  read := by
    have same : last.rest = start.rest := original.read
    rw [adopts.read, same]
    exact copied.read

theorem copies_perform
    (attended : seat.Attended Calm)
    (operation : Registry → Change α) :
    seat.Copies Calm bound mounted Eq (perform seat.tell operation)
      (perform alone.tell operation) := by
  intro before start copied answer last ends
  obtain ⟨rfl, original⟩ :=
    Ensures.of_outcome (attended_alone.ensures_perform trivial operation) ends
  refine (attended.ensures_perform copied.calm operation).mono ?_
  rintro _ after ⟨rfl, adopts⟩
  rw [copied.registry] at adopts ⊢
  exact ⟨rfl, copied.adopt adopts original⟩

theorem copies_createScope
    (attended : seat.Attended Calm)
    (document : String)
    (scope : Scope) :
    seat.Copies Calm bound mounted (fun copied origin => copied.isSome = origin.isSome)
      (createScope seat.tell document scope) (createScope alone.tell document scope) := by
  intro before start copied answer last ends
  cases created : start.registry.createScope document scope with
  | error fault =>
      have failed : (createScope alone.tell document scope).outcome start =
          (.error (.tree fault), start) := by
        unfold createScope
        rw [outcome_bind, show (Act.registry : Act Analysis Registry).outcome start =
          (.ok start.registry, start) from rfl]
        dsimp only
        rw [outcome_bind, created]
        rfl
      rw [failed] at ends
      cases ends
  | ok change =>
      obtain ⟨followed, original⟩ :=
        Ensures.of_outcome (attended_alone.ensures_createScope trivial created) ends
      have createdHere := created
      rw [← copied.registry] at createdHere
      refine (attended.ensures_createScope copied.calm createdHere).mono ?_
      rintro _ after ⟨followedHere, adopts⟩
      exact ⟨followedHere.trans followed.symm, copied.adopt adopts original⟩

/-! ## Mounts -/

theorem copies_mount? (place : Nat) :
    seat.Copies Calm bound mounted (fun copied origin =>
      copied.map Mount.unwatched = origin.map Mount.unwatched)
      (mount? (mounted + place)) (mount? place) :=
  copies_get.bind fun _ _ same => copies_pure (same.mounts.alike place)

theorem copies_modifyMount
    (place : Nat)
    {f : Mount → Mount}
    (same : ∀ mount other : Mount, mount.unwatched = other.unwatched →
      (f mount).unwatched = (f other).unwatched) :
    seat.Copies Calm bound mounted (fun _ _ => True)
      (modifyMount (mounted + place) f) (modifyMount place f) :=
  copies_modify fun _ _ copied =>
    ⟨copied.calm, copied.registry, copied.mounts.modify place same, copied.bindings, copied.read⟩

theorem unwatched_remember
    (space : Namespace)
    (name : String)
    (mount other : Mount)
    (same : mount.unwatched = other.unwatched) :
    (remember space name mount).unwatched = (remember space name other).unwatched := by
  rw [Mount.eq_of_unwatched same]
  unfold remember
  dsimp only
  split <;> rfl

theorem copies_declareIn
    (attended : seat.Attended Calm)
    (place : Nat)
    (symbol : Symbol) :
    seat.Copies Calm bound mounted Eq (declareIn seat.tell (mounted + place) symbol)
      (declareIn alone.tell place symbol) := by
  refine (copies_mount? place).bind fun copied origin alike => ?_
  rcases origin with _ | mount <;> rcases copied with _ | held
  · exact copies_pure rfl
  · cases alike
  · cases alike
  · rw [Mount.eq_of_unwatched (Option.some.inj alike)]
    dsimp only
    cases mount.mounted with
    | false => exact copies_pure rfl
    | true =>
        refine (copies_perform attended _).bind ?_
        rintro stored _ rfl
        cases stored with
        | none => exact copies_pure rfl
        | some declared =>
            exact (copies_modifyMount place (unwatched_remember _ _)).bind fun _ _ _ =>
              copies_pure rfl

theorem copies_mountScope
    (attended : seat.Attended Calm)
    (document nodeId : String)
    (kind : ScopeKind)
    (parentId : Option String)
    (symbols : List Symbol)
    (enter : Bool) :
    seat.Copies Calm bound mounted (fun copied origin => copied = mounted + origin)
      (mountScope seat.tell document nodeId kind parentId symbols enter)
      (mountScope alone.tell document nodeId kind parentId symbols enter) := by
  refine (copies_createScope attended document _).bind fun watch original followed => ?_
  refine copies_get.bind fun copy origin same => ?_
  refine Copies.bind (copies_modify fun _ _ copied => ?_) fun _ _ _ => ?_
  · refine ⟨copied.calm, copied.registry, copied.mounts.snoc ?_, copied.bindings, copied.read⟩
    rw [followed]
    rfl
  · dsimp only
    rw [followed, same.mounts.length]
    cases original.isSome with
    | false => exact copies_pure rfl
    | true =>
        refine (Copies.forIn fun symbol =>
          (copies_declareIn attended _ symbol).discard).bind fun _ _ _ => ?_
        cases enter with
        | false => exact copies_pure rfl
        | true => exact (copies_perform attended _).discard.bind fun _ _ _ => copies_pure rfl

/-! ## Bindings -/

theorem copies_addBinding (space : Namespace) (document : String) (scopeId : Option String) :
    seat.Copies Calm bound mounted (fun copied origin => copied = bound + origin)
      (addBinding space document scopeId) (addBinding space document scopeId) := by
  refine copies_get.bind fun copy origin same => ?_
  refine Copies.bind (copies_modify fun _ _ copied => ?_) fun _ _ _ =>
    copies_pure same.bindings.length
  exact ⟨copied.calm, copied.registry, copied.mounts, copied.bindings.snoc rfl, copied.read⟩

theorem copies_binding? (place : Nat) :
    seat.Copies Calm bound mounted Eq (binding? (bound + place)) (binding? place) :=
  copies_get.bind fun _ _ same => copies_pure (by simpa using same.bindings.alike place)

theorem copies_rename (place : Nat) (name : Option String) :
    seat.Copies Calm bound mounted (fun _ _ => True)
      (rename (bound + place) name) (rename place name) :=
  copies_modify fun _ _ copied =>
    ⟨copied.calm, copied.registry, copied.mounts,
      copied.bindings.modify place fun binding other same => by
        rw [show binding = other from same],
      copied.read⟩

theorem copies_drop
    (attended : seat.Attended Calm)
    (binding : Binding)
    (name : String) :
    seat.Copies Calm bound mounted (fun _ _ => True) (drop seat.tell binding name)
      (drop alone.tell binding name) :=
  (copies_perform attended _).discard

theorem copies_store
    (attended : seat.Attended Calm)
    (place : Nat)
    (binding : Binding)
    (symbol : Symbol) :
    seat.Copies Calm bound mounted Eq (store seat.tell (bound + place) binding symbol)
      (store alone.tell place binding symbol) := by
  refine (copies_perform attended _).bind ?_
  rintro stored _ rfl
  exact (copies_rename place _).bind fun _ _ _ => copies_pure rfl

theorem copies_storeWanted
    (attended : seat.Attended Calm)
    (place : Nat)
    (wanted : String)
    (build : Option String → String → Record.Checked Symbol) :
    seat.Copies Calm bound mounted Eq (storeWanted seat.tell (bound + place) wanted build)
      (storeWanted alone.tell place wanted build) := by
  unfold storeWanted
  split
  · exact copies_pure rfl
  · refine (copies_binding? place).bind ?_
    rintro found _ rfl
    cases found with
    | none => exact copies_pure rfl
    | some current =>
        refine (copies_ofChecked _).bind ?_
        rintro symbol _ rfl
        exact copies_store attended place current symbol

theorem copies_sync
    (attended : seat.Attended Calm)
    (place : Nat)
    (name : Option String)
    (build : Option String → String → Record.Checked Symbol) :
    seat.Copies Calm bound mounted Eq (sync seat.tell (bound + place) name build)
      (sync alone.tell place name build) := by
  rw [sync_eq, sync_eq]
  refine (copies_binding? place).bind ?_
  rintro found _ rfl
  cases found with
  | none => exact copies_pure rfl
  | some binding =>
      dsimp only
      cases binding.name with
      | none => exact copies_storeWanted attended place _ build
      | some old =>
          dsimp only
          split
          · exact (copies_drop attended binding old).bind fun _ _ _ =>
              (copies_rename place none).bind fun _ _ _ =>
                copies_storeWanted attended place _ build
          · exact copies_storeWanted attended place _ build

end AnalysisSeat

end LuauNodes
