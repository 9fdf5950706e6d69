import LuauNodes.Proofs.Graph.Remounting

/-!
# Closing an analysis

An analysis that is closed gives back everything that it mounted and declared:
in a document that held nothing before, it leaves the registry that it found.
Closing releases the bindings one by one, after which no global symbol is left,
and unmounts the scopes one by one, after which no scope is left.  Owners of one
identifier have one mount between them, so this is for graphs whose owners with
one identifier have scopes of one kind.
-/

namespace LuauNodes.AnalysisSeat

open Act
open Registry (Confined Bare HasGlobal)

variable {η : Type} {seat : AnalysisSeat η} {Calm : η → Prop}
variable {base analysis : Analysis} {members : Membership} {plan : Layout}
variable {start : Registry} {before : Workspace η}

/-! ## Analysing -/

/-- What an analysis does once the scopes are assigned and the owners are in order. -/
def replay (seat : AnalysisSeat η) (order : List (GraphNode × ScopeKind)) : Act η GraphReport := do
  for (owner, kind) in order do
    seat.mountOwner owner kind
  seat.declareAll .functions ∅
  seat.declareAll .vars (← seat.feedsAfter ∅)
  let resolved ← seat.resolveAll (← seat.feedsAfter ∅)
  seat.update fun held => { held with sockets := resolved, analyzed := true }
  let report ← seat.report
  note [finishedNotice report]
  return report

/-- What an analysis does that holds nothing. -/
def anew (seat : AnalysisSeat η) : Act η GraphReport := do
  seat.assign
  let assigned ← seat.current
  seat.replay (Graph.outermostFirst (Graph.owners assigned.palette assigned.graph)
    assigned.members)

theorem outcome_current (before : Workspace η) :
    seat.current.outcome before = (.ok (seat.read before.rest), before) := rfl

theorem outcome_analyze (fresh : (seat.read before.rest).analyzed = false) :
    seat.analyze.outcome before = seat.anew.outcome before := by
  unfold analyze
  rw [outcome_bind, outcome_current]
  dsimp only
  rw [fresh, if_neg Bool.false_ne_true]
  rfl

/-- Kept alone, an analysis that has not begun replays its owners outermost first. -/
theorem outcome_analyze_prepare (graph : Graph) (document : String) (palette : Palette) :
    alone.analyze.outcome (Workspace.fresh (.prepare graph document palette)) =
      (alone.replay (Graph.outermostFirst (Graph.owners palette graph)
        (Graph.assignScopes palette graph ∅))).outcome
          (alone.assign.outcome (Workspace.fresh (.prepare graph document palette))).2 := by
  rw [outcome_analyze rfl]
  rfl

/-- An analysis that holds something closes first. -/
theorem outcome_analyze_again (analyzed : (seat.read before.rest).analyzed = true) :
    seat.analyze.outcome before = (do
      seat.close
      seat.anew : Act η GraphReport).outcome before := by
  unfold analyze
  rw [outcome_bind, outcome_current]
  dsimp only
  rw [analyzed, if_pos rfl]
  rfl

/-- An analysis is done and accounts for what it holds. -/
structure Finished
    (seat : AnalysisSeat η)
    (Calm : η → Prop)
    (base : Analysis)
    (start : Registry)
    (workspace : Workspace η) :
    Prop where
  analyzed : (seat.read workspace.rest).analyzed = true
  accounted : ∃ members plan done, Graph.Planned members done plan ∧
    seat.Accounting Calm base members plan start done workspace

section Analysing

variable {graph : Graph} {document : String} {palette : Palette}

/-- An analysis that has not begun has nothing to account for. -/
theorem accounting_prepare
    (calm : Calm before.rest)
    (fresh : seat.read before.rest = .prepare graph document palette)
    (reachable : before.registry.Reachable)
    (bare : before.registry.Bare document) :
    seat.Accounting Calm (.prepare graph document palette) ∅ [] before.registry [] before where
  calm := calm
  graph := congrArg Analysis.graph fresh
  document := congrArg Analysis.document fresh
  palette := congrArg Analysis.palette fresh
  members := congrArg Analysis.members fresh
  laidOut := Registry.laidOut_nil bare.scopes
  confined := bare.confined reachable
  bound := by
    rw [fresh]
    exact bare.bound before.bindings
  mounted := by
    rw [fresh]
    constructor
    case held =>
      intro owner member
      cases member
    case own =>
      intro place member
      cases member

/-- What is assigned is accounted for. -/
theorem ensures_assign_accounting
    (attended : seat.Attended Calm)
    (calm : Calm before.rest)
    (fresh : seat.read before.rest = .prepare graph document palette)
    (reachable : before.registry.Reachable)
    (bare : before.registry.Bare document) :
    seat.assign.Ensures before fun _ after =>
      seat.Accounting Calm (.prepare graph document palette) (Graph.assignScopes palette graph ∅)
        [] before.registry [] after := by
  have accounting := accounting_prepare calm fresh reachable bare
  have updated := accounting.update attended
    (fun held => { held with members := Graph.assignScopes held.palette held.graph held.members })
    (fun _ => rfl) (fun _ => rfl) (fun _ => rfl) (fun _ => rfl) (fun _ => rfl)
    (congrArg (fun held : Analysis => Graph.assignScopes held.palette held.graph held.members)
      fresh)
  unfold assign
  simp only [ensures_bind, ensures_current, ensures_update, ensures_note]
  exact updated.noted _

/-- An analysis comes to its end, and accounts for what it holds then. -/
theorem Attended.analyze_accounts
    (attended : seat.Attended Calm)
    (calm : Calm before.rest)
    (fresh : seat.read before.rest = .prepare graph document palette)
    (inner : palette.Inner)
    (single : Graph.SingleScoped (Graph.owners palette graph))
    (reachable : before.registry.Reachable)
    (bare : before.registry.Bare document) :
    seat.analyze.Ensures before fun _ after =>
      seat.Finished Calm (.prepare graph document palette) before.registry after := by
  let assigned := Graph.assignScopes palette graph ∅
  let order := Graph.outermostFirst (Graph.owners palette graph) assigned
  have owned : ∀ owner ∈ order, Graph.ownedKind? palette owner.1 = some owner.2 ∧
      owner.2 ≠ .global :=
    fun owner member => inner.owned ((Graph.mem_outermostFirst owner).mp member)
  have singleOrder : Graph.SingleScoped order := fun owner member other otherMember =>
    single owner ((Graph.mem_outermostFirst owner).mp member) other
      ((Graph.mem_outermostFirst other).mp otherMember)
  rw [ensures_congr (outcome_analyze (congrArg Analysis.analyzed fresh))]
  simp only [anew, replay, ensures_bind]
  refine (ensures_assign_accounting attended calm fresh reachable bare).mono fun _ _
    accounting => ?_
  rw [ensures_current, accounting.palette, accounting.graph, accounting.members]
  refine (accounting.ensures_mountOwners attended owned singleOrder).mono ?_
  rintro _ mounted ⟨members, plan, planned, holds⟩
  refine (keeps_accounting_declareAll attended .functions ∅ _ holds).mono fun _ _ holds => ?_
  refine (Looks.keeps_accounting (looks_feedsAfter ∅) (keeps_feedsAfter ∅) _ holds).mono
    fun feeds _ holds => ?_
  refine (keeps_accounting_declareAll attended .vars feeds _ holds).mono fun _ _ holds => ?_
  refine (Looks.keeps_accounting (looks_feedsAfter ∅) (keeps_feedsAfter ∅) _ holds).mono
    fun feeds _ holds => ?_
  refine (Looks.keeps_accounting (looks_resolveAll feeds) (keeps_resolveAll feeds) _ holds).mono
    fun resolved last holds => ?_
  have finished := holds.update attended
    (fun held => { held with sockets := resolved, analyzed := true })
    (fun _ => rfl) (fun _ => rfl) (fun _ => rfl) (fun _ => rfl) (fun _ => rfl) holds.members
  rw [ensures_update]
  simp only [report, ensures_bind, ensures_current, ensures_registry, ensures_pure, ensures_note]
  refine ⟨?_, members, plan, order, planned, finished.noted _⟩
  exact congrArg Analysis.analyzed (attended.read_write last.rest _ holds.calm)

end Analysing

/-! ## Releasing bindings -/

variable {place : Nat} {places : List Nat}

/-- A binding that is released need no longer be accounted for. -/
theorem Holding.ensures_release
    (attended : seat.Attended Calm)
    (holding : seat.Holding Calm base members plan start (place :: places) before) :
    (release seat.tell place).Ensures before fun _ after =>
      seat.Holding Calm base members plan start places after ∧
        seat.read after.rest = seat.read before.rest ∧ after.mounts = before.mounts := by
  obtain ⟨binding, found, own⟩ := holding.bound.own place List.mem_cons_self
  unfold release
  rw [ensures_bind, ensures_binding?, found]
  dsimp only
  cases named : binding.name with
  | none =>
      exact (ensures_pure _ _).mpr
        ⟨{ holding with bound := holding.bound.tail found named }, rfl, rfl⟩
  | some old =>
      refine (holding.ensures_drop attended found own named).mono ?_
      rintro _ after ⟨holdingStill, read, mounts, bindings⟩
      have renamed : after.bindings[place]? = some { binding with name := none } := by
        rw [bindings, Registry.getElem?_renameAt, found, Option.map_some, if_pos rfl]
      exact ⟨{ holdingStill with bound := holdingStill.bound.tail renamed rfl }, read, mounts⟩

/-- Once all bindings are released, none has to be accounted for. -/
theorem Holding.ensures_releaseAll
    (attended : seat.Attended Calm)
    (holding : seat.Holding Calm base members plan start places before) :
    (forIn places PUnit.unit fun (place : Nat) _ => do
      release seat.tell place
      pure (ForInStep.yield PUnit.unit) : Act η PUnit).Ensures before fun _ after =>
        seat.Holding Calm base members plan start [] after ∧
          seat.read after.rest = seat.read before.rest ∧ after.mounts = before.mounts := by
  refine ensures_forIn_rest
    (fun places workspace => seat.Holding Calm base members plan start places workspace ∧
      seat.read workspace.rest = seat.read before.rest ∧ workspace.mounts = before.mounts)
    ⟨holding, rfl, rfl⟩ ?_
  rintro place rest workspace ⟨holding, read, mounts⟩
  rw [ensures_bind]
  refine (holding.ensures_release attended).mono ?_
  rintro _ after ⟨holdingStill, readStill, mountsStill⟩
  exact (ensures_pure _ _).mpr
    ⟨rfl, holdingStill, readStill.trans read, mountsStill.trans mounts⟩

/-! ## Unmounting scopes -/

/-- Every scope that a document still has is held by a mount at one of some places, unless it is
the one that is being left; and the document has no global symbols. -/
structure Vacating
    (seat : AnalysisSeat η)
    (Calm : η → Prop)
    (document : String)
    (start : Registry)
    (analysis : Analysis)
    (leaving : Option String)
    (places : List Nat)
    (workspace : Workspace η) :
    Prop where
  calm : Calm workspace.rest
  read : seat.read workspace.rest = analysis
  confined : Confined document start workspace.registry
  globals : ∀ space name, ¬ workspace.registry.HasGlobal document space name
  own : Mount.AllOf document places workspace.mounts
  held : ∀ id, workspace.registry.scopes.has document (some id) = true → leaving = some id ∨
    ∃ place ∈ places, ∃ mount, workspace.mounts[place]? = some mount ∧ mount.Holds document id

variable {document : String} {leaving : Option String} {mount : Mount}

/-- Once the bindings are released, all scopes are held by mounts. -/
theorem Accounting.vacating
    {done : List (GraphNode × ScopeKind)}
    (accounting : seat.Accounting Calm base members plan start done before)
    (planned : Graph.Planned members done plan)
    {after : Workspace η}
    (holding : seat.Holding Calm base members plan start [] after)
    (mounts : after.mounts = before.mounts) :
    seat.Vacating Calm base.document start (seat.read after.rest) none
      (seat.read before.rest).mounts.values.reverse after where
  calm := holding.calm
  read := rfl
  confined := holding.confined
  globals := by
    intro space name held
    obtain ⟨place, among, -⟩ := holding.bound.globals space name held
    cases among
  own := by
    rw [mounts]
    exact fun place among => accounting.mounted.own place (List.mem_reverse.mp among)
  held := by
    intro id present
    obtain ⟨entry, inPlan, rfl⟩ := List.mem_map.mp ((holding.laidOut.has_iff id).mp present)
    obtain ⟨owner, member, rfl⟩ := planned.sound entry inPlan
    obtain ⟨place, mount, listed, found, holds⟩ := accounting.mounted.held owner member
    rw [mounts]
    have among := List.mem_reverse.mpr (OrderedMap.mem_values_of_get?_eq_some listed)
    exact Or.inr ⟨place, among, mount, found, holds⟩

/-- A change that brings neither scopes nor global symbols. -/
theorem Vacating.adopt
    {registry : Registry}
    {after : Workspace η}
    (vacating : seat.Vacating Calm document start analysis leaving places before)
    (adopts : seat.Adopts Calm before registry after)
    (confined : Confined document start registry)
    (globals : ∀ space name, registry.HasGlobal document space name →
      before.registry.HasGlobal document space name)
    (scopes : ∀ id, registry.scopes.has document (some id) = true →
      before.registry.scopes.has document (some id) = true) :
    seat.Vacating Calm document start analysis leaving places after where
  calm := adopts.calm
  read := adopts.read.trans vacating.read
  confined := by
    rw [adopts.registry]
    exact confined
  globals := by
    rw [adopts.registry]
    exact fun space name held => vacating.globals space name (globals space name held)
  own := by
    rw [adopts.mounts]
    exact vacating.own
  held := by
    rw [adopts.registry, adopts.mounts]
    exact fun id present => vacating.held id (scopes id present)

/-- A scope that is gone is not being left any more. -/
theorem Vacating.left
    {id : String}
    (vacating : seat.Vacating Calm document start analysis (some id) places before)
    (gone : before.registry.scopes.has document (some id) ≠ true) :
    seat.Vacating Calm document start analysis none places before :=
  { vacating with
    held := by
      intro other present
      rcases vacating.held other present with same | held
      · cases same
        exact absurd present gone
      · exact Or.inr held }

theorem Vacating.noted
    (vacating : seat.Vacating Calm document start analysis leaving places before)
    (notices : List Notice) :
    seat.Vacating Calm document start analysis leaving places
      { before with notices := before.notices ++ notices } :=
  ⟨vacating.calm, vacating.read, vacating.confined, vacating.globals, vacating.own,
    vacating.held⟩

/-- The mount at a place is given up, and its scope is being left. -/
theorem Vacating.giveUp
    (vacating : seat.Vacating Calm document start analysis none (place :: places) before)
    (found : before.mounts[place]? = some mount) :
    seat.Vacating Calm document start analysis (some mount.scopeId) places
      { before with
        mounts := before.mounts.modify place fun held => { held with mounted := false } } :=
  { vacating with
    own := vacating.own.tail.modify place fun _ => rfl
    held := by
      intro id present
      by_cases same : mount.scopeId = id
      · exact Or.inl (congrArg some same)
      · rcases vacating.held id present with none | ⟨other, among, held, foundThere, holds⟩
        · cases none
        · -- The mount at the place holds its own scope only, so this is another mount.
          have apart : place ≠ other := by
            rintro rfl
            rw [found, Option.some.injEq] at foundThere
            exact same (foundThere ▸ holds.scopeId)
          have later := (List.mem_cons.mp among).resolve_left (Ne.symm apart)
          refine Or.inr ⟨other, later, held, ?_, holds⟩
          show (before.mounts.modify place _)[other]? = _
          rw [List.getElem?_modify, foundThere, Option.map_eq_map, Option.map_some, if_neg apart] }

/-- A mount that holds nothing need not be given up. -/
theorem Vacating.skip
    (vacating : seat.Vacating Calm document start analysis none (place :: places) before)
    (found : before.mounts[place]? = some mount)
    (released : mount.mounted = false) :
    seat.Vacating Calm document start analysis none places before :=
  { vacating with
    own := vacating.own.tail
    held := by
      intro id present
      rcases vacating.held id present with none | ⟨other, among, held, foundThere, holds⟩
      · cases none
      · rcases List.mem_cons.mp among with rfl | later
        · rw [found, Option.some.injEq] at foundThere
          subst foundThere
          rw [holds.mounted] at released
          cases released
        · exact Or.inr ⟨other, later, held, foundThere, holds⟩ }

/-- What a mount remembers to have declared does not matter. -/
theorem Vacating.forget
    (vacating : seat.Vacating Calm document start analysis leaving places before)
    (place : Nat) :
    seat.Vacating Calm document start analysis leaving places
      { before with
        mounts := before.mounts.modify place fun held => { held with declared := [] } } :=
  { vacating with
    own := vacating.own.modify place fun _ => rfl
    held := by
      intro id present
      rcases vacating.held id present with same | ⟨other, among, held, foundThere, holds⟩
      · exact Or.inl same
      · refine Or.inr ⟨other, among, ?_⟩
        show ∃ mount, (before.mounts.modify place _)[other]? = _ ∧ _
        rw [List.getElem?_modify, foundThere]
        exact ⟨_, rfl, by split <;> exact ⟨holds.document, holds.scopeId, holds.mounted⟩⟩ }

theorem keeps_vacating_remove
    (attended : seat.Attended Calm)
    (space : Namespace)
    (name : String)
    (scopeId : Option String) :
    Keeps (seat.Vacating Calm document start analysis leaving places)
      (perform seat.tell fun registry => registry.remove space document name scopeId) := by
  intro workspace vacating
  refine (attended.ensures_perform vacating.calm _).mono ?_
  rintro _ after ⟨_, adopts⟩
  refine vacating.adopt adopts (vacating.confined.remove space name scopeId)
    (fun other symbol held => (Registry.hasGlobal_of_remove held).1) fun id present => ?_
  rwa [Registry.has_remove] at present

/-- The scope that is being left is destroyed with everything below it. -/
theorem Vacating.ensures_destroyScope
    (attended : seat.Attended Calm)
    {id : String}
    (vacating : seat.Vacating Calm document start analysis (some id) places before) :
    (perform seat.tell fun registry => registry.destroyScope document id).Ensures before
      fun _ after => seat.Vacating Calm document start analysis none places after := by
  have consistent := vacating.confined.consistentAt
  refine (attended.ensures_perform vacating.calm _).mono ?_
  rintro _ after ⟨_, adopts⟩
  have destroyed := vacating.adopt adopts (vacating.confined.destroyScope id)
    (fun _ _ held => consistent.hasGlobal_of_destroyScope held)
    fun _ present => (consistent.has_of_destroyScope present).1
  refine destroyed.left ?_
  rw [adopts.registry]
  exact fun present => (consistent.has_of_destroyScope present).2 rfl

/-- Unmounting gives up the mount at a place with the scope that it holds. -/
theorem Vacating.ensures_unmount
    (attended : seat.Attended Calm)
    (vacating : seat.Vacating Calm document start analysis none (place :: places) before) :
    (unmount seat.tell place).Ensures before fun _ after =>
      seat.Vacating Calm document start analysis none places after := by
  obtain ⟨mount, found, rfl⟩ := vacating.own place List.mem_cons_self
  unfold unmount
  simp only [mount?, ensures_bind, ensures_get, ensures_pure, found]
  split
  · rename_i released
    exact (ensures_pure _ _).mpr (vacating.skip found (by simpa using released))
  · have givenUp := vacating.giveUp found
    simp only [modifyMount, ensures_bind, ensures_modify, ensures_discard]
    refine (attended.ensures_perform givenUp.calm _).mono ?_
    rintro _ left ⟨_, adopts⟩
    -- No scope is active, so leaving the scope changes nothing.
    rw [Registry.exitScope_of_inactive givenUp.confined.inactive] at adopts
    have vacant := givenUp.adopt adopts givenUp.confined (fun _ _ => id) fun _ => id
    have emptied : Keeps (seat.Vacating Calm mount.document start analysis (some mount.scopeId)
        places) (forIn mount.declared PUnit.unit fun (entry : Namespace × String) _ => do
          discard (perform seat.tell fun registry =>
            registry.remove entry.1 mount.document entry.2 (some mount.scopeId))
          pure (ForInStep.yield PUnit.unit)) :=
      Keeps.forIn fun entry => (keeps_vacating_remove attended _ _ _).discard
    refine (emptied _ vacant).mono fun _ cleared vacantStill => ?_
    refine ((vacantStill.forget place).ensures_destroyScope attended).mono fun _ last left => ?_
    exact (ensures_note _ _).mpr (left.noted _)

/-- Once everything is unmounted, no mount holds a scope any more. -/
theorem Vacating.ensures_unmountAll
    (attended : seat.Attended Calm)
    (vacating : seat.Vacating Calm document start analysis none places before) :
    (forIn places PUnit.unit fun (place : Nat) _ => do
      unmount seat.tell place
      pure (ForInStep.yield PUnit.unit) : Act η PUnit).Ensures before fun _ after =>
        seat.Vacating Calm document start analysis none [] after := by
  refine ensures_forIn_rest (seat.Vacating Calm document start analysis none) vacating ?_
  intro place rest workspace vacatingStill
  rw [ensures_bind]
  refine (vacatingStill.ensures_unmount attended).mono ?_
  exact fun _ after vacant => (ensures_pure _ _).mpr ⟨rfl, vacant⟩

/-! ## Closing -/

/-- Without mounts the document is as it was. -/
theorem Vacating.registry_eq
    (vacating : seat.Vacating Calm document start analysis none [] before)
    (reachable : start.Reachable)
    (bare : start.Bare document) :
    before.registry = start := by
  have vacant : before.registry.Bare document :=
    vacating.confined.consistentAt.bare
      (fun id => by
        refine Bool.eq_false_iff.mpr fun present => ?_
        rcases vacating.held id present with none | ⟨place, among, -⟩
        · cases none
        · cases among)
      vacating.globals
  exact Registry.eq_of_bare (vacating.confined.reachable.tidyAt document) vacant
    (reachable.tidyAt document) bare vacating.confined.elsewhere

/-- Closing an analysis that is done leaves the registry of the start, and an analysis that has not
begun. -/
theorem Finished.ensures_close
    (attended : seat.Attended Calm)
    (finished : seat.Finished Calm base start before)
    (reachable : start.Reachable)
    (bare : start.Bare base.document) :
    seat.close.Ensures before fun _ after =>
      after.registry = start ∧ Calm after.rest ∧
        seat.read after.rest = .prepare base.graph base.document base.palette := by
  obtain ⟨members, plan, done, planned, accounting⟩ := finished.accounted
  unfold close
  simp only [ensures_bind, ensures_current]
  refine (accounting.toHolding.ensures_releaseAll attended).mono ?_
  rintro _ released ⟨holding, read, mounts⟩
  rw [ensures_update]
  let f (held : Analysis) : Analysis := { held with declarations := ∅ }
  have updated := holding.update attended f (fun _ => rfl) (fun _ => rfl) (fun _ => rfl)
    holding.members
  have vacating := accounting.vacating planned updated mounts
  have rewritten := attended.read_write released.rest (f (seat.read released.rest)) holding.calm
  have listed : (seat.read (seat.write (f (seat.read released.rest)) released.rest)).mounts =
      (seat.read before.rest).mounts := by rw [rewritten, ← read]
  rw [listed]
  refine (vacating.ensures_unmountAll attended).mono ?_
  intro _ last vacant
  rw [ensures_update]
  refine ⟨vacant.registry_eq reachable bare, attended.calm_write _ _ vacant.calm, ?_⟩
  dsimp only
  rw [attended.read_write _ _ vacant.calm, vacant.read, rewritten, Analysis.prepare]
  simp only [f, holding.graph, holding.document, holding.palette]

/-- An analysis of a document that holds nothing, of a graph whose owners with one identifier have
scopes of one kind, leaves nothing behind once it is closed. -/
theorem Attended.analyze_close_restores
    (attended : seat.Attended Calm)
    (calm : Calm before.rest)
    {graph : Graph}
    {document : String}
    {palette : Palette}
    (fresh : seat.read before.rest = .prepare graph document palette)
    (inner : palette.Inner)
    (single : Graph.SingleScoped (Graph.owners palette graph))
    (reachable : before.registry.Reachable)
    (bare : before.registry.Bare document) :
    (do
      let _ ← seat.analyze
      seat.close : Act η Unit).Ensures before fun _ after =>
        after.registry = before.registry ∧
          seat.read after.rest = .prepare graph document palette := by
  rw [ensures_bind]
  refine (attended.analyze_accounts calm fresh inner single reachable bare).mono ?_
  rintro _ analyzed finished
  refine (finished.ensures_close attended reachable bare).mono ?_
  exact fun _ after ⟨restored, _, read⟩ => ⟨restored, read⟩

/-- Two loops share an identifier, and so do two nodes that set a variable each. -/
def repeated : Graph where
  nodes :=
    [⟨"n", "WhileLoop", []⟩,
     ⟨"n", "WhileLoop", []⟩,
     ⟨"v", "VariableSet", [("variableName", .text "x")]⟩,
     ⟨"v", "VariableSet", [("variableName", .text "y")]⟩]
  edges := []

theorem analyze_close_restores_repeated :
    Graph.SingleScoped (Graph.owners .standard repeated) ∧
      (∅ : Registry).Bare "graph" ∧
      (do
        let _ ← alone.analyze
        alone.close : Act Analysis Unit).Ensures
          (Workspace.fresh (.prepare repeated "graph" .standard)) fun _ after =>
            after.registry = ∅ ∧ alone.read after.rest = .prepare repeated "graph" .standard := by
  have single : Graph.SingleScoped (Graph.owners .standard repeated) := by
    unfold Graph.SingleScoped
    decide +kernel
  have bare : (∅ : Registry).Bare "graph" := ⟨fun space => by cases space <;> rfl, rfl⟩
  exact ⟨single, bare, attended_alone.analyze_close_restores trivial rfl Palette.inner_standard
    single ⟨[], .start⟩ bare⟩

/-! ### Owners that leave a scope behind -/

/-- A loop and a function share an identifier. -/
def doubled : Graph where
  nodes := [⟨"n", "WhileLoop", []⟩, ⟨"n", "FunctionDefinition", []⟩]
  edges := []

theorem outcome_analyze_doubled :
    alone.analyze.outcome (Workspace.fresh (.prepare doubled "graph" .standard)) =
      (alone.replay (Graph.owners .standard doubled)).outcome
        (alone.assign.outcome (Workspace.fresh (.prepare doubled "graph" .standard))).2 := by
  have ordered : Graph.outermostFirst (Graph.owners .standard doubled)
      (Graph.assignScopes .standard doubled ∅) = Graph.owners .standard doubled :=
    List.mergeSort_of_pairwise (by decide +kernel)
  rw [outcome_analyze_prepare, ordered]

/-- Of the two scopes only that of the function is given back. -/
theorem alone_close_doubled :
    Graph.ofJson Graph.memoryPath (.object [("nodes", .list
        [.object [("id", .text "n"), ("type", .text "WhileLoop")],
         .object [("id", .text "n"), ("type", .text "FunctionDefinition")]])]) = .ok doubled ∧
      (∅ : Registry).Reachable ∧ (∅ : Registry).Bare "graph" ∧
      (do
        let _ ← alone.analyze
        alone.close : Act Analysis Unit).Ensures
          (Workspace.fresh (.prepare doubled "graph" .standard)) fun _ after =>
            after.registry.scopes.has "graph" (some "n-loop-scope") = true ∧
              after.registry ≠ ∅ := by
  refine ⟨rfl, ⟨[], .start⟩, ⟨fun space => by cases space <;> rfl, rfl⟩, ?_⟩
  have left : (do
      let _ ← alone.analyze
      alone.close : Act Analysis Unit).Ensures
        (Workspace.fresh (.prepare doubled "graph" .standard)) fun _ after =>
          after.registry.scopes.has "graph" (some "n-loop-scope") = true := by
    refine ensures_of_isOk ?_ ?_ <;>
      (rw [outcome_bind, outcome_analyze_doubled]; decide +kernel)
  refine left.mono fun _ after present => ⟨present, fun restored => ?_⟩
  rw [restored] at present
  cases present

end LuauNodes.AnalysisSeat
