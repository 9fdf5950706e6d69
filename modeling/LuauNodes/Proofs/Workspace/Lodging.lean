import LuauNodes.Proofs.Registry.GlobalSymbols
import LuauNodes.Proofs.Registry.Guests
import LuauNodes.Proofs.Workspace.Adoption
import LuauNodes.Workspace.Mount

/-!
# Mounts in any order

Mounts that are made, declared in and unmounted in any order, by callers that
write nothing else.  A registry in which the mounted scopes were not stored before
takes them in as guests: each of them is held by a mount for as long as it is
stored, though a mount may hold a scope that is gone already, because a scope
around it was unmounted.  Once all mounts are unmounted no guest is left, and the
registry is as it was.
-/

namespace LuauNodes

open Registry (Shows)

/-- The scope that a mount holds, with its document. -/
def Mount.held? (mount : Mount) : Option (String × String) :=
  if mount.mounted then some (mount.document, mount.scopeId) else none

/-- What some mounts hold. -/
abbrev Holdings := List (Option (String × String))

/-- What nodes ask for. -/
inductive MountEdit where
  | mount (document nodeId : String) (kind : ScopeKind) (parentId : Option String)
    (symbols : List Symbol) (enter : Bool)
  | declare (place : Nat) (symbol : Symbol)
  | unmount (place : Nat)

namespace Act

variable {η α : Type} {tell : Event → Act η Unit} {Calm : η → Prop}
variable {home registry : Registry} {loose between : Option (String × String)} {held : Holdings}
variable {before after : Workspace η} {document id : String}

/-! ## Guests and their mounts -/

/-- The guests of a registry are held by the mounts, except for a scope that is between: no mount
has it yet, or its mount has given it up. -/
structure Lodging
    (Calm : η → Prop)
    (home : Registry)
    (loose : Option (String × String))
    (held : Holdings)
    (workspace : Workspace η) :
    Prop where
  calm : Calm workspace.rest
  reachable : workspace.registry.Reachable
  shows : Shows home home workspace.registry
  holdings : workspace.mounts.map Mount.held? = held
  guests : ∀ document id, some (document, id) ∈ held → home.houses document id = false
  lodged : ∀ document id, workspace.registry.scopes.has document (some id) = true →
    home.houses document id = true ∨ loose = some (document, id) ∨ some (document, id) ∈ held

/-- Where no mount holds anything there are no guests yet. -/
theorem lodging_of_unmounted
    (calm : Calm before.rest)
    (reachable : before.registry.Reachable)
    (unmounted : ∀ mount ∈ before.mounts, mount.mounted = false) :
    Lodging Calm before.registry none (List.replicate before.mounts.length none) before where
  calm := calm
  reachable := reachable
  shows := reachable.shows_home
  holdings := by
    rw [List.eq_replicate_iff, List.length_map]
    refine ⟨rfl, fun entry among => ?_⟩
    obtain ⟨mount, listed, rfl⟩ := List.mem_map.mp among
    rw [Mount.held?, unmounted mount listed, if_neg Bool.false_ne_true]
  guests := by
    intro document id among
    cases List.eq_of_mem_replicate among
  lodged := fun document id stored => Or.inl stored

/-- Without holdings the registry is as at home. -/
theorem Lodging.registry_eq
    (lodging : Lodging Calm home none held before)
    (empty : ∀ entry ∈ held, entry = none) :
    before.registry = home := by
  refine lodging.shows.eq_home lodging.reachable fun document id stored => ?_
  refine (lodging.lodged document id stored).resolve_right ?_
  rintro (none | among)
  · cases none
  · cases empty _ among

/-! ## Operations -/

/-- An operation that does not show, with what is between mounts after it. -/
theorem Lodging.ensures_perform
    (looksOn : LooksOn tell Calm)
    (lodging : Lodging Calm home loose held before)
    (operation : Operation)
    {change : Registry → Change α}
    (accepted : operation.effect before.registry = .ok (change before.registry).effect)
    (shows : Shows home home (change before.registry).registry)
    (lodged : ∀ document id,
      (change before.registry).registry.scopes.has document (some id) = true →
      home.houses document id = true ∨ between = some (document, id) ∨
        some (document, id) ∈ held) :
    (perform tell change).Ensures before fun result after =>
      result = (change before.registry).result ∧ Lodging Calm home between held after := by
  refine (looksOn.ensures_perform lodging.calm change).mono ?_
  rintro result after ⟨answer, adopted⟩
  refine ⟨answer, ?_⟩
  constructor
  case calm => exact adopted.calm
  case reachable =>
    rw [adopted.registry]
    exact lodging.reachable.of_effect operation accepted
  case shows =>
    rw [adopted.registry]
    exact shows
  case holdings => rw [adopted.mounts, lodging.holdings]
  case guests => exact lodging.guests
  case lodged =>
    rw [adopted.registry]
    exact lodged

theorem Lodging.ensures_declare
    (looksOn : LooksOn tell Calm)
    (lodging : Lodging Calm home loose held before)
    (guest : home.houses document id = false)
    (space : Namespace)
    (symbol : Symbol) :
    (perform tell fun registry =>
      registry.declare space document { symbol with scopeId := some id }).Ensures before
        fun _ after => Lodging Calm home loose held after := by
  let owned : Symbol := { symbol with scopeId := some id }
  have inside : owned.scopeId = some id := rfl
  have shows := lodging.shows.declare (lodging.reachable.consistent document) guest space inside
  refine (lodging.ensures_perform looksOn (.declare space document owned) rfl shows ?_).mono
    fun _ _ => And.right
  intro other inner present
  rw [Registry.has_declare] at present
  exact lodging.lodged other inner present

theorem Lodging.ensures_remove
    (looksOn : LooksOn tell Calm)
    (lodging : Lodging Calm home loose held before)
    (guest : home.houses document id = false)
    (space : Namespace)
    (name : String) :
    (perform tell fun registry => registry.remove space document name (some id)).Ensures before
      fun _ after => Lodging Calm home loose held after := by
  have shows := lodging.shows.remove (lodging.reachable.consistent document) guest space name
  refine (lodging.ensures_perform looksOn (.remove space document name (some id)) rfl shows ?_).mono
    fun _ _ => And.right
  intro other inner present
  rw [Registry.has_remove] at present
  exact lodging.lodged other inner present

theorem Lodging.ensures_enterScope
    (looksOn : LooksOn tell Calm)
    (lodging : Lodging Calm home loose held before)
    (guest : home.houses document id = false) :
    (perform tell fun registry => registry.enterScope document (some id)).Ensures before
      fun _ after => Lodging Calm home loose held after := by
  refine (lodging.ensures_perform looksOn (.enterScope document (some id)) rfl
    (lodging.shows.enterScope guest) ?_).mono fun _ _ => And.right
  intro other inner present
  rw [Registry.has_enterScope] at present
  exact lodging.lodged other inner present

theorem Lodging.ensures_exitScope
    (looksOn : LooksOn tell Calm)
    (lodging : Lodging Calm home loose held before)
    (guest : home.houses document id = false) :
    (perform tell fun registry => registry.exitScope document id).Ensures before
      fun _ after => Lodging Calm home loose held after := by
  refine (lodging.ensures_perform looksOn (.exitScope document id) rfl
    (lodging.shows.exitScope guest) ?_).mono fun _ _ => And.right
  intro other inner present
  rw [Registry.has_exitScope] at present
  exact lodging.lodged other inner present

/-- A scope that is between mounts is destroyed with everything below it.  Mounts that hold what
is below keep their holdings. -/
theorem Lodging.ensures_destroyScope
    (looksOn : LooksOn tell Calm)
    (atHome : home.Reachable)
    (lodging : Lodging Calm home (some (document, id)) held before)
    (guest : home.houses document id = false) :
    (perform tell fun registry => registry.destroyScope document id).Ensures before
      fun _ after => Lodging Calm home none held after := by
  have shows := lodging.shows.destroyScope fun scope found other among =>
    lodging.shows.doomed_guests atHome lodging.reachable guest found among
  refine (lodging.ensures_perform looksOn (.destroyScope document id) rfl shows ?_).mono
    fun _ _ => And.right
  intro other inner present
  have left : before.registry.scopes.has other (some inner) = true ∧
      (document, id) ≠ (other, inner) := by
    by_cases here : document = other
    · subst here
      obtain ⟨stored, apart⟩ :=
        (lodging.reachable.consistent document).has_of_destroyScope present
      exact ⟨stored, fun same => apart (Prod.mk.inj same).2.symm⟩
    · rw [Registry.has_destroyScope_elsewhere _ _ here] at present
      exact ⟨present, fun same => here (Prod.mk.inj same).1⟩
  refine (lodging.lodged other inner left.1).imp_right fun either => Or.inr ?_
  exact either.resolve_left fun same => left.2 (Option.some.inj same)

theorem Lodging.length (lodging : Lodging Calm home loose held before) :
    before.mounts.length = held.length := by
  rw [← lodging.holdings, List.length_map]

/-! ## Declaring through a mount -/

/-- What becomes of each mount becomes of what it holds. -/
theorem map_held?_modify
    (mounts : List Mount)
    (place : Nat)
    {f : Mount → Mount}
    {g : Option (String × String) → Option (String × String)}
    (same : ∀ mount, (f mount).held? = g mount.held?) :
    (mounts.modify place f).map Mount.held? = (mounts.map Mount.held?).modify place g := by
  refine List.ext_getElem? fun other => ?_
  rw [List.getElem?_map, List.getElem?_modify, List.getElem?_modify, List.getElem?_map]
  cases mounts[other]? with
  | none => rfl
  | some mount =>
      show some (Mount.held? _) = some _
      split
      · rw [same]
      · rfl

/-- A change of a mount that holds what it held. -/
theorem Lodging.modifyMount
    (lodging : Lodging Calm home loose held before)
    (place : Nat)
    {f : Mount → Mount}
    (same : ∀ mount, (f mount).held? = mount.held?) :
    (modifyMount place f).Ensures before fun _ after => Lodging Calm home loose held after := by
  refine (ensures_modify _ _).mpr { lodging with holdings := ?_ }
  rw [map_held?_modify _ _ (g := id) same, List.modify_id, lodging.holdings]

/-- What is found mounted holds a guest. -/
theorem Lodging.guest
    (lodging : Lodging Calm home loose held before)
    {place : Nat}
    {mount : Mount}
    (found : before.mounts[place]? = some mount)
    (mounted : mount.mounted = true) :
    held[place]? = some (some (mount.document, mount.scopeId)) ∧
      home.houses mount.document mount.scopeId = false := by
  have entry : held[place]? = some (some (mount.document, mount.scopeId)) := by
    rw [← lodging.holdings, List.getElem?_map, found, Option.map_some, Mount.held?, if_pos mounted]
  exact ⟨entry, lodging.guests _ _ (List.mem_of_getElem? entry)⟩

theorem held?_remember (space : Namespace) (name : String) (mount : Mount) :
    (remember space name mount).held? = mount.held? := by
  unfold remember
  split <;> rfl

/-- Nothing that is declared through a mount shows, though its scope may be gone. -/
theorem keeps_lodging_declareIn
    (looksOn : LooksOn tell Calm)
    (place : Nat)
    (symbol : Symbol) :
    Keeps (Lodging Calm home loose held) (declareIn tell place symbol) := by
  intro before lodging
  unfold declareIn
  simp only [mount?, ensures_bind, ensures_get, ensures_pure]
  cases found : before.mounts[place]? with
  | none => exact (ensures_pure _ _).mpr lodging
  | some mount =>
      dsimp only
      split
      · exact (ensures_pure _ _).mpr lodging
      · rename_i mounted
        have guest := (lodging.guest found (by simpa using mounted)).2
        rw [ensures_bind]
        refine (lodging.ensures_declare looksOn guest _ symbol).mono fun stored _ lodgingStill => ?_
        cases stored with
        | none => exact (ensures_pure _ _).mpr lodgingStill
        | some declared =>
            dsimp only
            rw [ensures_bind]
            refine (lodgingStill.modifyMount place (held?_remember _ _)).mono ?_
            exact fun _ after kept => (ensures_pure _ _).mpr kept

theorem keeps_lodging_declareAll
    (looksOn : LooksOn tell Calm)
    (place : Nat)
    (symbols : List Symbol) :
    Keeps (Lodging Calm home loose held)
      (forIn symbols PUnit.unit fun (symbol : Symbol) _ => do
        discard (declareIn tell place symbol)
        pure (ForInStep.yield PUnit.unit)) :=
  Keeps.forIn fun symbol => (keeps_lodging_declareIn looksOn place symbol).discard

/-! ## Mounting -/

/-- A mount that is added holds what was between, or nothing if nothing was. -/
theorem Lodging.lodge
    (lodging : Lodging Calm home loose held before)
    (mount : Mount)
    (own : mount.held? = loose)
    (guest : ∀ document id, loose = some (document, id) → home.houses document id = false) :
    Lodging Calm home none (held ++ [loose])
      { before with mounts := before.mounts ++ [mount] } :=
  { lodging with
    holdings := by
      show (before.mounts ++ [mount]).map Mount.held? = _
      rw [List.map_append, lodging.holdings, List.map_singleton, own]
    guests := by
      intro document id among
      rcases List.mem_append.mp among with earlier | last
      · exact lodging.guests document id earlier
      · exact guest document id (List.mem_singleton.mp last).symm
    lodged := by
      intro document id stored
      refine (lodging.lodged document id stored).imp_right fun either => Or.inr ?_
      rcases either with same | among
      · exact List.mem_append_right _ (List.mem_singleton.mpr same.symm)
      · exact List.mem_append_left _ among }

/-- A guest that is created is between mounts until one has it; a guest that is refused is not
stored. -/
theorem Lodging.ensures_createScope
    (looksOn : LooksOn tell Calm)
    (lodging : Lodging Calm home none held before)
    {scope : Scope}
    (guest : home.houses document scope.id = false)
    {change : Change (Option Scope)}
    (created : before.registry.createScope document scope = .ok change) :
    (createScope tell document scope).Ensures before fun watch after =>
      Lodging Calm home (if watch.isSome then some (document, scope.id) else none) held after := by
  refine (looksOn.ensures_createScope lodging.calm created).mono ?_
  rintro watch after ⟨answer, adopted⟩
  constructor
  case calm => exact adopted.calm
  case reachable =>
    rw [adopted.registry]
    have accepted : (Operation.createScope document scope).effect before.registry =
        .ok change.effect := by
      rw [Operation.effect, created]
      rfl
    exact lodging.reachable.of_effect _ accepted
  case shows =>
    rw [adopted.registry]
    exact lodging.shows.createScope (lodging.reachable.consistent document) guest created
  case holdings => rw [adopted.mounts, lodging.holdings]
  case guests => exact lodging.guests
  case lodged =>
    rw [adopted.registry, answer]
    intro other id present
    rcases Registry.has_of_createScope created present with earlier | ⟨rfl, rfl, accepted⟩
    · exact (lodging.lodged other id earlier).imp_right fun either =>
        Or.inr (either.resolve_left fun absurd => by cases absurd)
    · rw [if_pos accepted]
      exact Or.inr (Or.inl rfl)

/-- Mounting fails where the scope cannot be asked for, and nothing is done then. -/
theorem outcome_mountScope_of_error
    {nodeId : String}
    {kind : ScopeKind}
    {parentId : Option String}
    {fault : TreeFault}
    (refused : before.registry.createScope document
      (.fresh (scopeIdFor nodeId kind) kind parentId (some nodeId)) = .error fault)
    (symbols : List Symbol)
    (enter : Bool) :
    (mountScope tell document nodeId kind parentId symbols enter).outcome before =
      (.error (.tree fault), before) := by
  have asked : (Act.registry : Act η Registry).outcome before = (.ok before.registry, before) := rfl
  unfold mountScope Act.createScope
  simp only [outcome_bind, asked, refused]
  rfl

/-- A scope that was not stored at home is mounted as a guest, or the mount holds nothing, or there
is no mount. -/
theorem Lodging.leaves_mountScope
    (looksOn : LooksOn tell Calm)
    (lodging : Lodging Calm home none held before)
    {nodeId : String}
    {kind : ScopeKind}
    (guest : home.houses document (scopeIdFor nodeId kind) = false)
    (parentId : Option String)
    (symbols : List Symbol)
    (enter : Bool) :
    (mountScope tell document nodeId kind parentId symbols enter).Leaves before fun after =>
      ∃ entries, Lodging Calm home none (held ++ entries) after := by
  let scope : Scope := .fresh (scopeIdFor nodeId kind) kind parentId (some nodeId)
  cases created : before.registry.createScope document scope with
  | error fault =>
      refine ⟨[], ?_⟩
      rw [outcome_mountScope_of_error created, List.append_nil]
      exact lodging
  | ok change =>
      refine Ensures.leaves ?_
      unfold mountScope
      simp only [ensures_bind, ensures_get, ensures_modify]
      refine (lodging.ensures_createScope looksOn guest created).mono fun watch middle between => ?_
      cases watch with
      | none =>
          refine (ensures_pure _ _).mpr ⟨[none], between.lodge _ rfl ?_⟩
          intro document id none
          cases none
      | some followed =>
          rw [if_pos Option.isSome_some] at between ⊢
          let own : Mount := ⟨document, scopeIdFor nodeId kind, some followed, [], true⟩
          have lodged := between.lodge own rfl (by rintro _ _ ⟨⟩; exact guest)
          rw [ensures_bind]
          refine (keeps_lodging_declareAll looksOn middle.mounts.length symbols _ lodged).mono
            fun _ _ lodgedStill => ?_
          split
          · rw [ensures_bind, ensures_discard]
            refine (lodgedStill.ensures_enterScope looksOn guest).mono fun _ after entered => ?_
            exact (ensures_pure _ _).mpr ⟨_, entered⟩
          · exact (ensures_pure _ _).mpr ⟨_, lodgedStill⟩

/-! ## Unmounting -/

/-- The scope of a mount that is given up is between. -/
theorem Lodging.giveUp
    (lodging : Lodging Calm home none held before)
    {place : Nat}
    (entry : held[place]? = some (some (document, id))) :
    (Act.modifyMount place fun mount => { mount with mounted := false }).Ensures before
      fun _ after =>
        Lodging Calm home (some (document, id)) (held.modify place fun _ => none) after := by
  refine (ensures_modify _ _).mpr { lodging with holdings := ?_, guests := ?_, lodged := ?_ }
  · rw [map_held?_modify _ _ (g := fun _ => none) fun _ => rfl, lodging.holdings]
  · intro other inner among
    obtain ⟨index, found⟩ := List.mem_iff_getElem?.mp among
    rw [List.getElem?_modify] at found
    obtain ⟨former, formerAt, same⟩ := Option.map_eq_some_iff.mp found
    split at same
    · cases same
    · exact lodging.guests other inner (same ▸ List.mem_of_getElem? formerAt)
  · intro other inner stored
    refine (lodging.lodged other inner stored).imp_right fun either => ?_
    have among := either.resolve_left fun absurd => by cases absurd
    obtain ⟨index, found⟩ := List.mem_iff_getElem?.mp among
    by_cases here : place = index
    · subst here
      rw [entry] at found
      exact Or.inl (Option.some.inj found)
    · refine Or.inr (List.mem_iff_getElem?.mpr ⟨index, ?_⟩)
      rw [List.getElem?_modify, found, Option.map_eq_map, Option.map_some, if_neg here]

/-- An empty holding may be emptied again. -/
theorem modify_of_empty
    {place : Nat}
    (empty : (held[place]?).join = none) :
    held.modify place (fun _ => none) = held := by
  refine List.ext_getElem? fun other => ?_
  rw [List.getElem?_modify]
  by_cases here : place = other
  · subst here
    cases entry : held[place]? with
    | none => rfl
    | some own =>
        rw [entry] at empty
        cases own with
        | none => exact congrArg some (if_pos rfl)
        | some scope => cases empty
  · simp [here]

theorem keeps_lodging_removeAll
    (looksOn : LooksOn tell Calm)
    (guest : home.houses document id = false)
    (declared : List (Namespace × String)) :
    Keeps (Lodging Calm home loose held)
      (forIn declared PUnit.unit fun (entry : Namespace × String) _ => do
        discard (perform tell fun registry =>
          registry.remove entry.1 document entry.2 (some id))
        pure (ForInStep.yield PUnit.unit)) :=
  Keeps.forIn fun entry => Keeps.discard fun _ (lodging : Lodging Calm home loose held _) =>
    lodging.ensures_remove looksOn guest entry.1 entry.2

/-- Unmounting empties the holding of a mount.  If the scope is gone already, as after a scope
around it was unmounted, nothing else happens; and a second time nothing happens at all. -/
theorem Lodging.ensures_unmount
    (looksOn : LooksOn tell Calm)
    (atHome : home.Reachable)
    (lodging : Lodging Calm home none held before)
    (place : Nat) :
    (unmount tell place).Ensures before fun _ after =>
      Lodging Calm home none (held.modify place fun _ => none) after := by
  have untouched : (held[place]?).join = none →
      Lodging Calm home none (held.modify place fun _ => none) before := by
    intro empty
    rw [modify_of_empty empty]
    exact lodging
  unfold unmount
  simp only [mount?, ensures_bind, ensures_get, ensures_pure]
  cases found : before.mounts[place]? with
  | none =>
      refine (ensures_pure _ _).mpr (untouched ?_)
      rw [← lodging.holdings, List.getElem?_map, found]
      rfl
  | some mount =>
      dsimp only
      split
      · rename_i released
        refine (ensures_pure _ _).mpr (untouched ?_)
        rw [← lodging.holdings, List.getElem?_map, found, Option.map_some, Mount.held?,
          if_neg (by simpa using released)]
        rfl
      · rename_i mounted
        obtain ⟨entry, guest⟩ := lodging.guest found (by simpa using mounted)
        rw [ensures_bind]
        refine (lodging.giveUp entry).mono fun _ _ between => ?_
        simp only [ensures_bind, ensures_discard]
        refine (between.ensures_exitScope looksOn guest).mono fun _ _ exited => ?_
        refine (keeps_lodging_removeAll looksOn guest mount.declared _ exited).mono
          fun _ _ cleared => ?_
        refine (cleared.modifyMount place ?_).mono fun _ _ forgotten => ?_
        · exact fun _ => rfl
        refine (forgotten.ensures_destroyScope looksOn atHome guest).mono fun _ _ vacated => ?_
        exact (ensures_note _ _).mpr { vacated with }

end Act

namespace MountEdit

open Act

variable {η : Type} {tell : Event → Act η Unit} {Calm : η → Prop}
variable {home : Registry} {held later : Holdings} {before start : Workspace η}

/-! ## Runs -/

/-- The activity that an edit asks for. -/
def act (tell : Event → Act η Unit) : MountEdit → Act η Unit
  | mount document nodeId kind parentId symbols enter =>
    discard (mountScope tell document nodeId kind parentId symbols enter)
  | declare place symbol => discard (declareIn tell place symbol)
  | unmount place => Act.unmount tell place

/-- The workspace that an edit leaves, whether it fails or not. -/
def apply (tell : Event → Act η Unit) (before : Workspace η) (edit : MountEdit) : Workspace η :=
  ((edit.act tell).outcome before).2

/-- The workspace that edits leave which are made one after the other. -/
def run (tell : Event → Act η Unit) (before : Workspace η) (edits : List MountEdit) :
    Workspace η :=
  edits.foldl (apply tell) before

/-- The scope that an edit asks for, with its document. -/
def wanted? : MountEdit → Option (String × String)
  | mount document nodeId kind _ _ _ => some (document, scopeIdFor nodeId kind)
  | declare _ _ | unmount _ => none

/-- The scopes that some edits ask for are not stored in a registry. -/
def Strange (home : Registry) (edits : List MountEdit) : Prop :=
  ∀ edit ∈ edits, ∀ scope ∈ edit.wanted?, home.scopes.has scope.1 (some scope.2) = false

/-- What an edit makes of what the mounts hold. -/
inductive Leads : MountEdit → Holdings → Holdings → Prop where
  | mount
      {document nodeId : String}
      {kind : ScopeKind}
      {parentId : Option String}
      {symbols : List Symbol}
      {enter : Bool}
      (held entries : Holdings) :
      Leads (.mount document nodeId kind parentId symbols enter) held (held ++ entries)
  | declare {place : Nat} {symbol : Symbol} (held : Holdings) :
      Leads (.declare place symbol) held held
  | unmount {place : Nat} (held : Holdings) :
      Leads (.unmount place) held (held.modify place fun _ => none)

/-- What is given up is not held again. -/
theorem Leads.given_up
    {edit : MountEdit}
    (leads : edit.Leads held later)
    {place : Nat}
    (empty : held[place]? = some none) :
    later[place]? = some none := by
  cases leads with
  | mount _ entries =>
      obtain ⟨short, -⟩ := List.getElem?_eq_some_iff.mp empty
      rw [List.getElem?_append_left short, empty]
  | declare => exact empty
  | @unmount other =>
      rw [List.getElem?_modify, empty, Option.map_eq_map, Option.map_some]
      split <;> rfl

theorem leaves_act
    (looksOn : LooksOn tell Calm)
    (atHome : home.Reachable)
    (lodging : Lodging Calm home none held before)
    (edit : MountEdit)
    (strange : ∀ scope ∈ edit.wanted?, home.houses scope.1 scope.2 = false) :
    (edit.act tell).Leaves before fun after =>
      ∃ later, edit.Leads held later ∧ Lodging Calm home none later after := by
  cases edit with
  | mount document nodeId kind parentId symbols enter =>
      refine Leaves.map ((lodging.leaves_mountScope looksOn (strange _ rfl) parentId symbols
        enter).mono ?_) _
      rintro after ⟨entries, lodgingStill⟩
      exact ⟨_, .mount held entries, lodgingStill⟩
  | declare place symbol =>
      refine Leaves.map (Ensures.leaves ?_) _
      refine (keeps_lodging_declareIn looksOn place symbol _ lodging).mono ?_
      exact fun _ after lodgingStill => ⟨_, .declare held, lodgingStill⟩
  | unmount place =>
      refine ((lodging.ensures_unmount looksOn atHome place).mono ?_).leaves
      exact fun _ after lodgingStill => ⟨_, .unmount held, lodgingStill⟩

/-- At the end of a run the guests are held, and what was given up before is not held again. -/
theorem lodging_run
    (looksOn : LooksOn tell Calm)
    (atHome : home.Reachable)
    (lodging : Lodging Calm home none held before)
    {edits : List MountEdit}
    (strange : Strange home edits) :
    ∃ later, Lodging Calm home none later (run tell before edits) ∧
      ∀ place : Nat, held[place]? = some none → later[place]? = some none := by
  induction edits generalizing before held with
  | nil => exact ⟨held, lodging, fun _ empty => empty⟩
  | cons edit rest ih =>
      obtain ⟨middle, leads, lodgingStill⟩ :=
        leaves_act looksOn atHome lodging edit (strange edit List.mem_cons_self)
      obtain ⟨later, lodgingAfter, kept⟩ :=
        ih lodgingStill fun other among => strange other (List.mem_cons_of_mem edit among)
      exact ⟨later, lodgingAfter, fun place empty => kept place (leads.given_up empty)⟩

/-! ## Runs that unmount everything -/

/-- Every mount that was made in the course of some edits was unmounted at some time after. -/
def Closed (tell : Event → Act η Unit) (start : Workspace η) (edits : List MountEdit) : Prop :=
  ∀ place, start.mounts.length ≤ place → place < (run tell start edits).mounts.length →
    ∃ earlier later, edits = earlier ++ unmount place :: later ∧
      place < (run tell start earlier).mounts.length

/-- A mount that was unmounted holds nothing at the end. -/
theorem given_up_of_unmounted
    (looksOn : LooksOn tell Calm)
    (atHome : home.Reachable)
    (lodging : Lodging Calm home none held start)
    {edits earlier after : List MountEdit}
    (strange : Strange home edits)
    {place : Nat}
    (whole : edits = earlier ++ unmount place :: after)
    (made : place < (run tell start earlier).mounts.length)
    (lodgingAfter : Lodging Calm home none later (run tell start edits)) :
    later[place]? = some none := by
  subst whole
  have strangeEarlier : Strange home earlier :=
    fun edit among => strange edit (List.mem_append_left _ among)
  have strangeAfter : Strange home after := fun edit among =>
    strange edit (List.mem_append_right _ (List.mem_cons_of_mem _ among))
  obtain ⟨middle, lodgingMiddle, -⟩ := lodging_run looksOn atHome lodging strangeEarlier
  have emptied := (lodgingMiddle.ensures_unmount looksOn atHome place).leaves
  obtain ⟨last, lodgingLast, kept⟩ := lodging_run looksOn atHome emptied strangeAfter
  have same : last = later := by
    rw [← lodgingLast.holdings, ← lodgingAfter.holdings, run, run, run, List.foldl_append]
    rfl
  subst same
  refine kept place ?_
  rw [lodgingMiddle.length] at made
  rw [List.getElem?_modify, List.getElem?_eq_getElem made, Option.map_eq_map, Option.map_some,
    if_pos rfl]

/-- Some mounts are unmounted one after the other. -/
def unmounts (places : List Nat) : List MountEdit := places.map unmount

theorem strange_unmounts (home : Registry) (places : List Nat) :
    Strange home (unmounts places) := by
  intro edit among scope asked
  obtain ⟨place, -, rfl⟩ := List.mem_map.mp among
  cases asked

theorem length_run_unmounts
    (looksOn : LooksOn tell Calm)
    (atHome : home.Reachable)
    (lodging : Lodging Calm home none held before)
    (places : List Nat) :
    (run tell before (unmounts places)).mounts.length = before.mounts.length := by
  induction places generalizing before held with
  | nil => rfl
  | cons place rest ih =>
      have emptied := (lodging.ensures_unmount looksOn atHome place).leaves
      refine (ih emptied).trans ?_
      rw [emptied.length, List.length_modify, lodging.length]

/-- Any run may be closed. -/
theorem closed_append_unmounts
    (looksOn : LooksOn tell Calm)
    (atHome : home.Reachable)
    (lodging : Lodging Calm home none held start)
    {edits : List MountEdit}
    (strange : Strange home edits) :
    Closed tell start (edits ++ unmounts (List.range (run tell start edits).mounts.length)) := by
  obtain ⟨middle, lodgingMiddle, -⟩ := lodging_run looksOn atHome lodging strange
  have lengths : ∀ places, (run tell start (edits ++ unmounts places)).mounts.length =
      (run tell start edits).mounts.length := by
    intro places
    rw [← length_run_unmounts looksOn atHome lodgingMiddle places, run, run, run,
      List.foldl_append]
  intro place _ made
  rw [lengths] at made
  obtain ⟨done, rest, whole⟩ := List.append_of_mem (List.mem_range.mpr made)
  refine ⟨edits ++ unmounts done, unmounts rest, ?_, ?_⟩
  · rw [whole, unmounts, List.map_append, List.map_cons, List.append_assoc]
    rfl
  · rwa [lengths]

/-- Mounting and unmounting in any order, with declarations in between, leaves the registry of the
start once everything is unmounted, provided that the scopes to be mounted were not stored at the
start; and whatever was mounted may be unmounted in the end. -/
theorem unmounted_restores
    (looksOn : LooksOn tell Calm)
    (calm : Calm start.rest)
    (reachable : start.registry.Reachable)
    (unmounted : ∀ mount ∈ start.mounts, mount.mounted = false)
    (edits : List MountEdit)
    (strange : Strange start.registry edits) :
    let after := run tell start edits
    (Closed tell start edits → after.registry = start.registry) ∧
      (run tell after (unmounts (List.range after.mounts.length))).registry = start.registry := by
  have lodging := lodging_of_unmounted calm reachable unmounted
  have restored : ∀ edits, Strange start.registry edits → Closed tell start edits →
      (run tell start edits).registry = start.registry := by
    intro edits strange closed
    obtain ⟨later, lodgingAfter, kept⟩ := lodging_run looksOn reachable lodging strange
    refine lodgingAfter.registry_eq fun entry among => ?_
    obtain ⟨place, entryAt⟩ := List.mem_iff_getElem?.mp among
    have empty : later[place]? = some none := by
      by_cases old : place < start.mounts.length
      · exact kept place (List.getElem?_replicate_of_lt old)
      · obtain ⟨short, -⟩ := List.getElem?_eq_some_iff.mp entryAt
        rw [← lodgingAfter.length] at short
        obtain ⟨earlier, rest, whole, made⟩ := closed place (Nat.le_of_not_lt old) short
        exact given_up_of_unmounted looksOn reachable lodging strange whole made lodgingAfter
    rw [empty] at entryAt
    exact (Option.some.inj entryAt).symm
  intro after
  refine ⟨restored edits strange, ?_⟩
  have closed := closed_append_unmounts looksOn reachable lodging strange
  have all := restored _ (fun edit among => (List.mem_append.mp among).elim (strange edit)
    (strange_unmounts _ _ edit)) closed
  rwa [run, List.foldl_append] at all

/-- A function of a graph with a loop in it, in the body of another function.  The outer scope is
unmounted first, and what is declared in the inner one after that is refused. -/
def outermostFirst : List MountEdit :=
  [.mount "main" "f" .function (some "body") [.ofVariable "x" .number] true,
    .mount "main" "w" .loop (some "f-function-scope") [] true,
    .mount "main" "v" .loop (some "missing") [] true,
    .declare 1 (.ofVariable "i" .string),
    .unmount 0, .declare 1 (.ofVariable "j" .string), .unmount 1, .unmount 2, .unmount 0]

theorem unmounted_restores_outermostFirst :
    let start : Workspace Unit :=
      { Workspace.fresh () with registry := (Dispatch.asking Operation.shadowing).registry }
    start.registry.Reachable ∧
      Strange start.registry outermostFirst ∧
      Closed unheard start outermostFirst ∧
      (run unheard start (outermostFirst.take 4)).registry.scopes.has "main"
        (some "w-loop-scope") = true ∧
      (run unheard start outermostFirst).registry = start.registry := by
  intro start
  have reachable : start.registry.Reachable :=
    (Dispatch.reachable_asking Operation.shadowing).registry
  have strange : Strange start.registry outermostFirst := by
    unfold Strange
    decide +kernel
  have closed : Closed unheard start outermostFirst := by
    have three : (run unheard start outermostFirst).mounts.length = 3 := by decide +kernel
    intro place _ made
    rw [three] at made
    match place, made with
    | 0, _ => exact ⟨outermostFirst.take 4, outermostFirst.drop 5, rfl, by decide +kernel⟩
    | 1, _ => exact ⟨outermostFirst.take 6, outermostFirst.drop 7, rfl, by decide +kernel⟩
    | 2, _ => exact ⟨outermostFirst.take 7, outermostFirst.drop 8, rfl, by decide +kernel⟩
  refine ⟨reachable, strange, closed, by decide +kernel, ?_⟩
  exact (unmounted_restores looksOn_unheard trivial reachable (by decide) outermostFirst
    strange).1 closed

end MountEdit

end LuauNodes
