import LuauNodes.Proofs.Graph.Holding

/-!
# Mounting owners again

Nodes may share an identifier.  Where the owners with one identifier have scopes
of one kind they share one scope: it is created for the first of them, and stays
where it is for the others, each of which takes over the mount.
-/

namespace LuauNodes

theorem Mount.Holds.remember
    {mount : Mount}
    {document id : String}
    (holds : mount.Holds document id)
    (space : Namespace)
    (name : String) :
    (Act.remember space name mount).Holds document id := by
  unfold Act.remember
  split
  · exact holds
  · exact ⟨holds.document, holds.scopeId, holds.mounted⟩

namespace AnalysisSeat

open Act

variable {η : Type} {seat : AnalysisSeat η} {Calm : η → Prop}
variable {base analysis : Analysis} {members : Membership} {plan : Layout}
variable {start : Registry} {done : List (GraphNode × ScopeKind)} {before : Workspace η}

/-! ## Mounting a scope -/

/-- A mount behind some others is live, and the others are as they were. -/
structure Mounting
    (seat : AnalysisSeat η)
    (Calm : η → Prop)
    (base : Analysis)
    (members : Membership)
    (plan : Layout)
    (start : Registry)
    (places : List Nat)
    (analysis : Analysis)
    (others : List Mount)
    (id : String)
    (workspace : Workspace η) :
    Prop extends seat.Holding Calm base members plan start places workspace where
  read : seat.read workspace.rest = analysis
  kept : ∀ (place : Nat) mount, others[place]? = some mount →
    workspace.mounts[place]? = some mount
  live : ∃ mount, workspace.mounts[others.length]? = some mount ∧ mount.Holds base.document id

variable {places : List Nat} {others : List Mount} {id : String}

theorem Mounting.remember
    (mounting : seat.Mounting Calm base members plan start places analysis others id before)
    (space : Namespace)
    (name : String) :
    seat.Mounting Calm base members plan start places analysis others id
      { before with
        mounts := before.mounts.modify others.length (Act.remember space name) } where
  toHolding := mounting.toHolding.transfer rfl rfl rfl
  read := mounting.read
  kept := by
    intro place mount found
    obtain ⟨short, -⟩ := List.getElem?_eq_some_iff.mp found
    show (before.mounts.modify others.length _)[place]? = _
    rw [List.getElem?_modify, mounting.kept place mount found, Option.map_eq_map, Option.map_some,
      if_neg (Nat.ne_of_gt short)]
  live := by
    obtain ⟨mount, found, holds⟩ := mounting.live
    refine ⟨Act.remember space name mount, ?_, holds.remember space name⟩
    show (before.mounts.modify others.length _)[others.length]? = _
    rw [List.getElem?_modify, found, Option.map_eq_map, Option.map_some, if_pos rfl]

theorem keeps_mounting_declareIn
    (attended : seat.Attended Calm)
    (symbol : Symbol) :
    Keeps (seat.Mounting Calm base members plan start places analysis others id)
      (declareIn seat.tell others.length symbol) := by
  intro before mounting
  obtain ⟨mount, found, holds⟩ := mounting.live
  unfold declareIn
  simp only [mount?, ensures_bind, ensures_get, ensures_pure, found, holds.mounted, Bool.not_true,
    Bool.false_eq_true, if_false]
  refine (attended.ensures_perform mounting.calm _).mono ?_
  rintro _ middle ⟨rfl, adopts⟩
  rw [holds.document] at adopts ⊢
  have holding : seat.Holding Calm base members plan start places middle := by
    refine mounting.toHolding.adopt adopts (mounting.laidOut.declare _ _ _)
      (mounting.confined.declare _ _) ?_ rfl rfl
    rw [adopts.bindings]
    exact mounting.bound.declareOwned _ rfl
  have still : seat.Mounting Calm base members plan start places analysis others id middle := by
    refine ⟨holding, adopts.read.trans mounting.read, ?_, ?_⟩
    · rw [adopts.mounts]
      exact mounting.kept
    · rw [adopts.mounts]
      exact mounting.live
  generalize (before.registry.declare _ _ _).result = stored
  cases stored with
  | none => exact (ensures_pure _ _).mpr still
  | some declared =>
      refine (ensures_bind _ _).mpr ((ensures_modify _ _).mpr ((ensures_pure _ _).mpr ?_))
      exact still.remember _ _

/-- A scope that is created, or created again, gets a new mount. -/
theorem Holding.ensures_mountScope
    (attended : seat.Attended Calm)
    (holding : seat.Holding Calm base members plan start places before)
    {nodeId : String}
    {kind : ScopeKind}
    {parent : Option String}
    {later : Layout}
    {change : Change (Option Scope)}
    (created : before.registry.createScope base.document
      (.fresh (scopeIdFor nodeId kind) kind parent (some nodeId)) = .ok change)
    (stored : ∃ scope, change.result = some scope)
    (laidOut : change.registry.LaidOut base.document later)
    (symbols : List Symbol) :
    (mountScope seat.tell base.document nodeId kind parent symbols false).Ensures before
      fun place after => place = before.mounts.length ∧
        seat.Mounting Calm base members later start places (seat.read before.rest) before.mounts
          (scopeIdFor nodeId kind) after := by
  obtain ⟨scope, result⟩ := stored
  unfold mountScope
  simp only [ensures_bind]
  refine (attended.ensures_createScope holding.calm created).mono ?_
  rintro watch middle ⟨followed, adopts⟩
  have live : watch.isSome = true := by rw [followed, result, Option.isSome_some]
  simp only [ensures_get, ensures_modify, ensures_pure, live, if_true, ensures_bind,
    Bool.false_eq_true, if_false]
  let mount : Mount := ⟨base.document, scopeIdFor nodeId kind, watch, [], true⟩
  have mounting : seat.Mounting Calm base members later start places (seat.read before.rest)
      before.mounts (scopeIdFor nodeId kind)
      { middle with mounts := middle.mounts ++ [mount] } := by
    refine ⟨?_, adopts.read, ?_, mount, ?_, rfl, rfl, rfl⟩
    · refine holding.adopt adopts laidOut (holding.confined.createScope created) ?_ rfl rfl
      show Registry.Bound _ _ middle.bindings _
      rw [adopts.bindings]
      exact holding.bound.of_globals fun space name held =>
        (Registry.hasGlobal_createScope created space name).mp held
    · intro place other found
      obtain ⟨short, -⟩ := List.getElem?_eq_some_iff.mp found
      show (middle.mounts ++ [mount])[place]? = _
      rw [adopts.mounts, List.getElem?_append_left short, found]
    · show (middle.mounts ++ [mount])[before.mounts.length]? = _
      rw [adopts.mounts]
      exact List.getElem?_concat_length
  have declares : Keeps (seat.Mounting Calm base members later start places (seat.read before.rest)
      before.mounts (scopeIdFor nodeId kind)) (do
        for symbol in symbols do
          discard (declareIn seat.tell before.mounts.length symbol) : Act η Unit) :=
    (Keeps.forIn fun symbol => (keeps_mounting_declareIn attended symbol).discard).bind fun _ =>
      keeps_pure ()
  have ended := declares _ mounting
  simp only [ensures_bind, ensures_pure] at ended
  rw [← adopts.mounts] at ended
  refine ended.mono fun _ after still => ?_
  exact ⟨by rw [adopts.mounts], by rw [← adopts.mounts]; exact still⟩

/-! ## Mounting owners -/

variable {owner : GraphNode × ScopeKind}

/-- Where the scope of an owner can be created, it is mounted, and the owner is accounted for. -/
theorem Accounting.ensures_mountAt
    (attended : seat.Attended Calm)
    (accounting : seat.Accounting Calm base members plan start done before)
    (single : Graph.SingleScoped (done ++ [owner]))
    {parent : Option String}
    {later : Layout}
    (creates : ∃ change, before.registry.createScope base.document
        (.fresh (scopeIdFor owner.1.id owner.2) owner.2 parent (some owner.1.id)) = .ok change ∧
      (∃ scope, change.result = some scope) ∧ change.registry.LaidOut base.document later)
    (notices : List Notice)
    (symbols : List Symbol) :
    (do
      note notices
      let place ← mountScope seat.tell base.document owner.1.id owner.2 parent symbols false
      seat.update fun held =>
        { held with mounts := held.mounts.insert owner.1.id place }).Ensures before fun _ after =>
          seat.Accounting Calm base members later start (done ++ [owner]) after := by
  obtain ⟨change, created, stored, laidOut⟩ := creates
  have noted := (accounting.noted notices).toHolding
  simp only [ensures_bind, ensures_note]
  refine (noted.ensures_mountScope attended created stored laidOut symbols).mono ?_
  rintro place after ⟨rfl, mounting⟩
  obtain ⟨mount, found, holds⟩ := mounting.live
  rw [ensures_update]
  let f (held : Analysis) : Analysis :=
    { held with mounts := held.mounts.insert owner.1.id before.mounts.length }
  have read := attended.read_write after.rest (f (seat.read after.rest)) mounting.calm
  have updated := mounting.toHolding.update attended f (fun _ => rfl) (fun _ => rfl)
    (fun _ => rfl) mounting.members
  rw [mounting.read] at read updated
  constructor
  case toHolding =>
    rw [mounting.read]
    show seat.Holding Calm base members later start
      (seat.read (seat.write (f (seat.read before.rest)) after.rest)).declarations.values _
    rw [read]
    exact updated
  case mounted =>
    rw [mounting.read]
    show Graph.Mounted _ _ (seat.read (seat.write (f (seat.read before.rest)) after.rest)).mounts _
    rw [read]
    exact accounting.mounted.snoc single mounting.kept found holds

/-- The scope around a scope, where it is stored. -/
def homeOf (registry : Registry) (document : String) (wanted : Option String) : Option String :=
  if registry.scopes.has document wanted then wanted else none

theorem homeOf_stored
    {registry : Registry}
    {document outer : String}
    {wanted : Option String}
    (laidOut : registry.LaidOut document plan)
    (home : homeOf registry document wanted = some outer) :
    outer ∈ plan.map (·.1) := by
  unfold homeOf at home
  split at home
  · rename_i present
    rw [← laidOut.has_iff, ← home]
    exact present
  · cases home

/-- A node is re-homed to the global scope, or it stays where it is, which is at home. -/
theorem homeOf_eq_of_stays
    {registry : Registry}
    {document : String}
    {wanted : Option String}
    (stays : ((homeOf registry document wanted).isNone && wanted.isSome) ≠ true) :
    homeOf registry document wanted = wanted := by
  unfold homeOf at stays ⊢
  split
  · rfl
  · rename_i missing
    rw [if_neg missing] at stays
    cases wanted with
    | none => rfl
    | some outer => exact absurd rfl stays

/-- The scope around a planned one is stored. -/
theorem homeOf_of_planned
    {registry : Registry}
    {document : String}
    (laidOut : registry.LaidOut document plan)
    (planned : Graph.placementOf members owner ∈ plan) :
    homeOf registry document (members.scopeOf owner.1.id) = members.scopeOf owner.1.id := by
  cases wanted : members.scopeOf owner.1.id with
  | none => simp [homeOf]
  | some outer =>
      obtain ⟨scope, stored, -, -, -, inside⟩ := laidOut.exists_stored planned
      have parent := (ScopeTree.parentOf?_eq_some_iff _ _ _).mpr
        ⟨scope, stored, inside.trans wanted⟩
      have present := laidOut.forest.parent_stored parent
      rw [← ScopeTree.has_some_eq_true_iff] at present
      exact if_pos present

/-- A new owner is mounted at home, once it sits there. -/
theorem Accounting.ensures_mountNew
    (attended : seat.Attended Calm)
    {later : Membership}
    (accounting : seat.Accounting Calm base later plan start done before)
    (planned : Graph.Planned members done plan)
    (new : owner.1.id ∉ done.map fun owner => owner.1.id)
    (inner : owner.2 ≠ .global)
    (single : Graph.SingleScoped (done ++ [owner]))
    {wanted : Option String}
    (placed : ∀ id, later.scopeOf id =
      if owner.1.id = id then homeOf before.registry base.document wanted
      else members.scopeOf id)
    (notices : List Notice)
    (symbols : List Symbol) :
    (do
      note notices
      let place ← mountScope seat.tell base.document owner.1.id owner.2
        (homeOf before.registry base.document wanted) symbols false
      seat.update fun held =>
        { held with mounts := held.mounts.insert owner.1.id place }).Ensures before fun _ after =>
          ∃ later grown, Graph.Planned later (done ++ [owner]) grown ∧
            seat.Accounting Calm base later grown start (done ++ [owner]) after := by
  have homeStored : ∀ outer, homeOf before.registry base.document wanted = some outer →
      outer ∈ plan.map (·.1) := fun outer home => homeOf_stored accounting.laidOut home
  have creates := accounting.laidOut.createScope (some owner.1.id) inner (planned.not_mem new)
    homeStored
  refine (accounting.ensures_mountAt attended single creates notices symbols).mono ?_
  exact fun _ after still => ⟨_, _, planned.snoc new placed, still⟩

/-- Mounting an owner accounts for it, whether or not its scope was mounted before. -/
theorem Accounting.ensures_mountOwner
    (attended : seat.Attended Calm)
    (accounting : seat.Accounting Calm base members plan start done before)
    (planned : Graph.Planned members done plan)
    (owned : Graph.ownedKind? base.palette owner.1 = some owner.2)
    (inner : owner.2 ≠ .global)
    (single : Graph.SingleScoped (done ++ [owner])) :
    (seat.mountOwner owner.1 owner.2).Ensures before fun _ after =>
      ∃ later grown, Graph.Planned later (done ++ [owner]) grown ∧
        seat.Accounting Calm base later grown start (done ++ [owner]) after := by
  obtain ⟨kind, available, -⟩ := Option.bind_eq_some_iff.mp owned
  unfold mountOwner
  rw [ensures_bind, ensures_current, accounting.palette, accounting.members, accounting.document,
    available]
  extract_lets sits
  rw [ensures_bind, ensures_registry]
  extract_lets parent mounts
  by_cases again : ∃ other ∈ done, other.1.id = owner.1.id
  · -- The scope is stored already, and is created again where it is.
    obtain ⟨other, member, same⟩ := again
    obtain ⟨among, plannedStill⟩ := planned.again single member same
    have atHome : parent = sits := homeOf_of_planned accounting.laidOut among
    have creates := accounting.laidOut.recreateScope inner among
    rw [show members.scopeOf owner.1.id = parent from atHome.symm] at creates
    have stays : (parent.isNone && sits.isSome) ≠ true := by
      rw [atHome]
      cases sits <;> simp
    rw [if_neg stays]
    refine (accounting.ensures_mountAt attended single creates _ _).mono ?_
    exact fun _ after still => ⟨members, plan, plannedStill, still⟩
  · have new : owner.1.id ∉ done.map fun owner => owner.1.id := by
      intro member
      obtain ⟨other, otherMember, same⟩ := List.mem_map.mp member
      exact again ⟨other, otherMember, same⟩
    by_cases rehomed : (parent.isNone && sits.isSome) = true
    · have outside : parent = none := by
        rw [Bool.and_eq_true, Option.isNone_iff_eq_none] at rehomed
        exact rehomed.1
      rw [if_pos rehomed, ensures_bind, ensures_update]
      have moved := accounting.update attended
        (fun held => { held with members := held.members.insert owner.1.id none })
        (fun _ => rfl) (fun _ => rfl) (fun _ => rfl) (fun _ => rfl) (fun _ => rfl)
        (congrArg (OrderedMap.insert · owner.1.id none) accounting.members)
      refine moved.ensures_mountNew attended planned new inner single (fun id => ?_) _ _
      rw [Membership.scopeOf_insert, ← outside]
      rfl
    · have atHome : parent = sits := homeOf_eq_of_stays rehomed
      rw [if_neg rehomed]
      refine accounting.ensures_mountNew attended planned new inner single (fun id => ?_) _ _
      split
      · rename_i here
        subst here
        exact atHome.symm
      · rfl

/-- Mounting owners one after the other accounts for all of them. -/
theorem Accounting.ensures_mountOwners
    (attended : seat.Attended Calm)
    {order : List (GraphNode × ScopeKind)}
    (owned : ∀ owner ∈ order, Graph.ownedKind? base.palette owner.1 = some owner.2 ∧
      owner.2 ≠ .global)
    (single : Graph.SingleScoped order)
    (accounting : seat.Accounting Calm base members [] start [] before) :
    (forIn order PUnit.unit fun (owner : GraphNode × ScopeKind) _ => do
      seat.mountOwner owner.1 owner.2
      pure (ForInStep.yield PUnit.unit) : Act η PUnit).Ensures before fun _ after =>
        ∃ members plan, Graph.Planned members order plan ∧
          seat.Accounting Calm base members plan start order after := by
  refine ensures_forIn
    (fun done workspace => ∃ members plan, Graph.Planned members done plan ∧
      seat.Accounting Calm base members plan start done workspace)
    ⟨members, [], Graph.planned_nil members, accounting⟩ ?_
  rintro done owner rest workspace rfl ⟨members, plan, planned, still⟩
  obtain ⟨kind, inner⟩ := owned owner (by simp)
  have singleSoFar : Graph.SingleScoped (done ++ [owner]) := by
    rw [List.append_cons] at single
    exact single.of_append
  rw [ensures_bind]
  refine (still.ensures_mountOwner attended planned kind inner singleSoFar).mono ?_
  rintro _ after mounted
  exact (ensures_pure _ _).mpr ⟨rfl, mounted⟩

end AnalysisSeat

end LuauNodes
