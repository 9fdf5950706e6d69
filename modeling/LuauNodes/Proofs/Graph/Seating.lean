import LuauNodes.Proofs.Graph.Declaring

/-!
# Finding places for nodes

What an analysis does before it declares anything, in whatever registry it finds
itself.  Closing gives back what the analysis held and always comes to an end.
Mounting the owners comes to an end too: a scope that is refused is stored already,
so afterwards every scope that a node sits in is stored.
-/

namespace LuauNodes.AnalysisSeat

open Act

variable {η : Type} {seat : AnalysisSeat η} {Calm : η → Prop}
variable {analysis : Analysis} {scopes : List String} {before : Workspace η}

/-- An analysis is as it is in a registry that some run comes to, with some scopes of its document
stored. -/
structure StandsOn
    (seat : AnalysisSeat η)
    (Calm : η → Prop)
    (analysis : Analysis)
    (scopes : List String)
    (workspace : Workspace η) :
    Prop where
  calm : Calm workspace.rest
  read : seat.read workspace.rest = analysis
  reachable : workspace.registry.Reachable
  stored : ∀ id ∈ scopes, workspace.registry.scopes.has analysis.document (some id) = true

namespace StandsOn

theorem stands (standsOn : seat.StandsOn Calm analysis scopes before) :
    seat.Stands Calm analysis before.registry before :=
  ⟨standsOn.calm, standsOn.read, rfl⟩

theorem transfer
    {after : Workspace η}
    (standsOn : seat.StandsOn Calm analysis scopes before)
    (registry : after.registry = before.registry)
    (rest : after.rest = before.rest) :
    seat.StandsOn Calm analysis scopes after where
  calm := rest ▸ standsOn.calm
  read := rest ▸ standsOn.read
  reachable := registry ▸ standsOn.reachable
  stored := registry ▸ standsOn.stored

theorem update
    (attended : seat.Attended Calm)
    (standsOn : seat.StandsOn Calm analysis scopes before)
    (f : Analysis → Analysis)
    (document : ∀ held, (f held).document = held.document) :
    seat.StandsOn Calm (f analysis) scopes
      { before with rest := seat.write (f (seat.read before.rest)) before.rest } where
  calm := attended.calm_write _ _ standsOn.calm
  read := (standsOn.stands.update attended f).read
  reachable := standsOn.reachable
  stored := by
    rw [document]
    exact standsOn.stored

end StandsOn

/-! ## Single steps -/

theorem keeps_standsOn_perform
    {α : Type}
    (attended : seat.Attended Calm)
    {operation : Registry → Change α}
    (reachable : ∀ registry : Registry, registry.Reachable →
      (operation registry).registry.Reachable)
    (stored : ∀ registry : Registry, ∀ id ∈ scopes,
      registry.scopes.has analysis.document (some id) = true →
        (operation registry).registry.scopes.has analysis.document (some id) = true) :
    Keeps (seat.StandsOn Calm analysis scopes) (perform seat.tell operation) := by
  intro before standsOn
  refine (attended.ensures_perform standsOn.calm operation).mono ?_
  rintro _ after ⟨-, adopts⟩
  refine ⟨adopts.calm, adopts.read.trans standsOn.read, ?_, fun id among => ?_⟩
  · rw [adopts.registry]
    exact reachable _ standsOn.reachable
  · rw [adopts.registry]
    exact stored _ id among (standsOn.stored id among)

theorem keeps_standsOn_modify
    {f : Workspace η → Workspace η}
    (registry : ∀ workspace, (f workspace).registry = workspace.registry)
    (rest : ∀ workspace, (f workspace).rest = workspace.rest) :
    Keeps (seat.StandsOn Calm analysis scopes) (modify f) :=
  fun before standsOn =>
    (ensures_modify f _).mpr (standsOn.transfer (registry before) (rest before))

theorem keeps_standsOn_note (notices : List Notice) :
    Keeps (seat.StandsOn Calm analysis scopes) (note notices) :=
  keeps_standsOn_modify (fun _ => rfl) fun _ => rfl

theorem keeps_standsOn_modifyMount (place : Nat) (f : Mount → Mount) :
    Keeps (seat.StandsOn Calm analysis scopes) (modifyMount place f) :=
  keeps_standsOn_modify (fun _ => rfl) fun _ => rfl

theorem keeps_standsOn_declareIn
    (attended : seat.Attended Calm)
    (place : Nat)
    (symbol : Symbol) :
    Keeps (seat.StandsOn Calm analysis scopes) (declareIn seat.tell place symbol) := by
  refine Keeps.declareIn (fun space document scopeId => ?_) (keeps_standsOn_modifyMount place)
  refine keeps_standsOn_perform attended
    (fun _ reachable => reachable.of_effect (.declare space document _) rfl) ?_
  intro registry id _ stored
  rwa [Registry.has_declare]

/-! ## Closing -/

section Closing

variable (attended : seat.Attended Calm)

include attended

theorem keeps_standsOn_remove
    (space : Namespace)
    (document name : String)
    (scopeId : Option String) :
    Keeps (seat.StandsOn Calm analysis scopes)
      (perform seat.tell fun registry => registry.remove space document name scopeId) := by
  refine keeps_standsOn_perform attended
    (fun _ reachable => reachable.of_effect (.remove space document name scopeId) rfl) ?_
  intro registry id _ stored
  rwa [Registry.has_remove]

theorem keeps_standsOn_release (place : Nat) :
    Keeps (seat.StandsOn Calm analysis scopes) (release seat.tell place) :=
  Keeps.release (keeps_standsOn_remove attended) (keeps_standsOn_modify (fun _ => rfl) fun _ => rfl)

theorem keeps_standsOn_unmount (place : Nat) :
    Keeps (seat.StandsOn Calm analysis []) (unmount seat.tell place) := by
  refine Keeps.unmount (fun document scopeId => ?_) (keeps_standsOn_remove attended)
    (fun document scopeId => ?_) (keeps_standsOn_modifyMount place) keeps_standsOn_note
  · exact keeps_standsOn_perform attended
      (fun _ reachable => reachable.of_effect (.exitScope document scopeId) rfl)
      fun _ id among => by cases among
  · exact keeps_standsOn_perform attended
      (fun _ reachable => reachable.of_effect (.destroyScope document scopeId) rfl)
      fun _ id among => by cases among

/-- Whatever an analysis holds, once it is closed it has not begun. -/
theorem StandsOn.ensures_close (standsOn : seat.StandsOn Calm analysis [] before) :
    seat.close.Ensures before fun _ after =>
      seat.StandsOn Calm (.prepare analysis.graph analysis.document analysis.palette) [] after := by
  unfold close
  rw [ensures_bind, ensures_current, ensures_bind]
  refine (Keeps.forIn (keeps_standsOn_release attended) before standsOn).mono ?_
  intro _ released standsOn
  rw [ensures_bind, ensures_update, ensures_bind, ensures_current, ensures_bind]
  have bare := standsOn.update attended (fun held => { held with declarations := ∅ }) fun _ => rfl
  refine (Keeps.forIn (keeps_standsOn_unmount attended) _ bare).mono fun _ unmounted standsOn => ?_
  rw [ensures_update]
  exact standsOn.update attended
    (fun held => { held with mounts := ∅, members := ∅, sockets := ∅, analyzed := false })
    fun _ => rfl

end Closing

/-! ## Mounting -/

/-- Once a scope was mounted under a stored one, it is stored. -/
theorem StandsOn.ensures_mountScope
    (attended : seat.Attended Calm)
    (standsOn : seat.StandsOn Calm analysis scopes before)
    (nodeId : String)
    {kind : ScopeKind}
    (inner : kind ≠ .global)
    {parent : Option String}
    (parentStored : ∀ outer, parent = some outer →
      before.registry.scopes.has analysis.document (some outer) = true)
    (symbols : List Symbol) :
    (mountScope seat.tell analysis.document nodeId kind parent symbols false).Ensures before
      fun _ after =>
        seat.StandsOn Calm analysis (scopes ++ [scopeIdFor nodeId kind]) after := by
  let scope : Scope := .fresh (scopeIdFor nodeId kind) kind parent (some nodeId)
  have scopeInner : scope.kind ≠ .global := inner
  have consistent := standsOn.reachable.consistent
  obtain ⟨change, created, -⟩ := consistent.createScope analysis.document scopeInner
  have accepted : (Operation.createScope analysis.document scope).effect before.registry =
      .ok (change.registry, change.events) := by
    rw [Operation.effect, created]
    rfl
  unfold mountScope
  rw [ensures_bind]
  refine (attended.ensures_createScope standsOn.calm created).mono ?_
  rintro watch middle ⟨-, adopts⟩
  have grown : seat.StandsOn Calm analysis (scopes ++ [scopeIdFor nodeId kind]) middle := by
    refine ⟨adopts.calm, adopts.read.trans standsOn.read, ?_, fun id among => ?_⟩
    · rw [adopts.registry]
      exact standsOn.reachable.of_effect _ accepted
    · rw [adopts.registry]
      refine (consistent analysis.document).has_createScope created parentStored ?_
      exact (List.mem_append.mp among).imp (standsOn.stored id) List.mem_singleton.mp
  have listed : seat.StandsOn Calm analysis (scopes ++ [scopeIdFor nodeId kind])
      { middle with mounts := middle.mounts ++
        [⟨analysis.document, scopeIdFor nodeId kind, watch, [], watch.isSome⟩] } :=
    grown.transfer rfl rfl
  have declares : ∀ place : Nat,
      Keeps (seat.StandsOn Calm analysis (scopes ++ [scopeIdFor nodeId kind])) (do
        for symbol in symbols do
          discard (declareIn seat.tell place symbol)
        return place) := fun place =>
    (Keeps.forIn fun symbol => (keeps_standsOn_declareIn attended place symbol).discard).bind
      fun _ => keeps_pure place
  simp only [ensures_bind, ensures_get, ensures_modify, Bool.false_eq_true, if_false]
  split
  · exact declares _ _ listed
  · exact (ensures_pure _ _).mpr listed

/-- What mounting makes of an analysis: it has no declarations, and a node stays where it was
assigned to or is put outside of every scope. -/
structure Seating
    (graph : Graph)
    (document : String)
    (palette : Palette)
    (assigned : Membership)
    (analysis : Analysis) :
    Prop where
  graph : analysis.graph = graph
  document : analysis.document = document
  palette : analysis.palette = palette
  declarations : analysis.declarations = ∅
  members : ∀ id, analysis.members.scopeOf id = assigned.scopeOf id ∨
    analysis.members.scopeOf id = none

variable {graph : Graph} {document : String} {palette : Palette} {assigned : Membership}

theorem seating_assigned (graph : Graph) (document : String) (palette : Palette)
    (assigned : Membership) :
    Seating graph document palette assigned
      { Analysis.prepare graph document palette with members := assigned } :=
  ⟨rfl, rfl, rfl, rfl, fun _ => Or.inl rfl⟩

theorem Seating.outside
    (seating : Seating graph document palette assigned analysis)
    (nodeId : String) :
    Seating graph document palette assigned
      { analysis with members := analysis.members.insert nodeId none } :=
  { seating with
    members := by
      intro id
      dsimp only
      rw [Membership.scopeOf_insert]
      split
      · exact Or.inr rfl
      · exact seating.members id }

theorem Seating.mounted
    (seating : Seating graph document palette assigned analysis)
    (mounts : OrderedMap String Nat) :
    Seating graph document palette assigned { analysis with mounts := mounts } :=
  { seating with }

/-- Once a parent is found that is stored, mounting an owner there stores its scope. -/
theorem Seating.ensures_mountUnder
    (attended : seat.Attended Calm)
    (seating : Seating graph document palette assigned analysis)
    (standsOn : seat.StandsOn Calm analysis scopes before)
    (nodeId : String)
    {kind : ScopeKind}
    (inner : kind ≠ .global)
    {parent : Option String}
    (parentStored : ∀ outer, parent = some outer →
      before.registry.scopes.has document (some outer) = true)
    (notices : List Notice)
    (symbols : List Symbol) :
    (do
      note notices
      let place ← mountScope seat.tell document nodeId kind parent symbols false
      seat.update fun held =>
        { held with mounts := held.mounts.insert nodeId place }).Ensures before fun _ after =>
          ∃ later, Seating graph document palette assigned later ∧
            seat.StandsOn Calm later (scopes ++ [scopeIdFor nodeId kind]) after := by
  obtain rfl := seating.document
  rw [ensures_bind, ensures_note, ensures_bind]
  have noted : seat.StandsOn Calm analysis scopes
      { before with notices := before.notices ++ notices } := standsOn.transfer rfl rfl
  refine (noted.ensures_mountScope attended nodeId inner parentStored symbols).mono ?_
  intro place mounted standsOn
  rw [ensures_update]
  exact ⟨_, seating.mounted _, standsOn.update attended
    (fun held => { held with mounts := held.mounts.insert nodeId place }) fun _ => rfl⟩

/-- Once an owner was mounted, its scope is stored. -/
theorem Seating.ensures_mountOwner
    (attended : seat.Attended Calm)
    (seating : Seating graph document palette assigned analysis)
    (standsOn : seat.StandsOn Calm analysis scopes before)
    {owner : GraphNode × ScopeKind}
    (owned : Graph.ownedKind? palette owner.1 = some owner.2)
    (inner : owner.2 ≠ .global) :
    (seat.mountOwner owner.1 owner.2).Ensures before fun _ after =>
      ∃ later, Seating graph document palette assigned later ∧
        seat.StandsOn Calm later (scopes ++ [scopeIdFor owner.1.id owner.2]) after := by
  obtain ⟨kind, available, -⟩ := Option.bind_eq_some_iff.mp owned
  unfold mountOwner
  rw [ensures_bind, ensures_current, standsOn.read, seating.palette, seating.document, available]
  extract_lets sits
  rw [ensures_bind, ensures_registry]
  extract_lets parent mounts
  have parentStored : ∀ outer, parent = some outer →
      before.registry.scopes.has document (some outer) = true := by
    intro outer isParent
    dsimp only [parent] at isParent
    split at isParent
    · rename_i present
      rwa [← isParent]
    · cases isParent
  split
  · rw [ensures_bind, ensures_update]
    exact (seating.outside owner.1.id).ensures_mountUnder attended
      (standsOn.update attended
        (fun held => { held with members := held.members.insert owner.1.id none }) fun _ => rfl)
      owner.1.id inner parentStored _ _
  · exact seating.ensures_mountUnder attended standsOn owner.1.id inner parentStored _ _

/-- Some owners have been mounted, so that their scopes are stored. -/
def HasMounted
    (seat : AnalysisSeat η)
    (Calm : η → Prop)
    (graph : Graph)
    (document : String)
    (palette : Palette)
    (assigned : Membership)
    (owners : List (GraphNode × ScopeKind))
    (workspace : Workspace η) :
    Prop :=
  ∃ analysis, Seating graph document palette assigned analysis ∧
    seat.StandsOn Calm analysis (owners.map fun owner => scopeIdFor owner.1.id owner.2) workspace

/-- Once the owners were mounted one after the other, all their scopes are stored. -/
theorem Seating.ensures_mountOwners
    (attended : seat.Attended Calm)
    (seating : Seating graph document palette assigned analysis)
    (standsOn : seat.StandsOn Calm analysis [] before)
    {order : List (GraphNode × ScopeKind)}
    (owned : ∀ owner ∈ order, Graph.ownedKind? palette owner.1 = some owner.2 ∧
      owner.2 ≠ .global) :
    (forIn order PUnit.unit fun (owner : GraphNode × ScopeKind) _ => do
      seat.mountOwner owner.1 owner.2
      pure (ForInStep.yield PUnit.unit) : Act η PUnit).Ensures before fun _ after =>
        seat.HasMounted Calm graph document palette assigned order after := by
  have start : seat.HasMounted Calm graph document palette assigned [] before :=
    ⟨analysis, seating, standsOn⟩
  refine ensures_forIn (seat.HasMounted Calm graph document palette assigned) start ?_
  rintro done owner rest workspace rfl ⟨later, seatingSoFar, standsSoFar⟩
  obtain ⟨kind, inner⟩ := owned owner (by simp)
  rw [ensures_bind]
  refine (seatingSoFar.ensures_mountOwner attended standsSoFar kind inner).mono ?_
  rintro _ after ⟨held, seating, standsOn⟩
  refine (ensures_pure _ _).mpr ⟨rfl, held, seating, ?_⟩
  rw [List.map_append, List.map_singleton]
  exact standsOn

/-- Once all owners are mounted, every scope that a node sits in is stored. -/
theorem Seating.seated
    (distinct : (graph.nodes.map GraphNode.id).Nodup)
    (seating : Seating graph document palette (Graph.assignScopes palette graph ∅) analysis)
    {order : List (GraphNode × ScopeKind)}
    (all : ∀ owner ∈ Graph.owners palette graph, owner ∈ order)
    (standsOn : seat.StandsOn Calm analysis
      (order.map fun owner => scopeIdFor owner.1.id owner.2) before) :
    graph.Seated document analysis.members before.registry := by
  intro node _ id inside
  rw [← seating.document]
  rcases seating.members node.id with assigned | outside
  · obtain ⟨owner, member, rfl⟩ :=
      Graph.housed_assignScopes distinct node.id id (assigned.symm.trans inside)
    exact standsOn.stored _ (List.mem_map_of_mem (all owner member))
  · rw [outside] at inside
    cases inside

end LuauNodes.AnalysisSeat
