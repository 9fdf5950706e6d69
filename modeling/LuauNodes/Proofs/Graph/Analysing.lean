import LuauNodes.Proofs.Registry.Layout
import LuauNodes.Proofs.Registry.Meaning
import LuauNodes.Proofs.Workspace.Delivery
import LuauNodes.Session.Run

/-!
# Analyses under way

What an analysis keeps from step to step.  While its listeners look on, an
analysis of a graph goes on with the graph, the document, the palette and the
membership that it has, and the document keeps its layout: declaring symbols and
resolving sockets change neither, and neither can fail, as in a forest of scopes
every node has its surroundings.
-/

namespace LuauNodes.AnalysisSeat

open Act

variable {η : Type} {seat : AnalysisSeat η} {Calm : η → Prop}

/-- While what the user keeps is calm, the listeners of a seat look on and do not touch the
analysis, and what is written to the seat is read from it. -/
structure Attended (seat : AnalysisSeat η) (Calm : η → Prop) : Prop where
  looksOn : ∀ analysis, LooksOn seat.tell fun rest => Calm rest ∧ seat.read rest = analysis
  read_write : ∀ rest analysis, Calm rest → seat.read (seat.write analysis rest) = analysis
  calm_write : ∀ rest analysis, Calm rest → Calm (seat.write analysis rest)

/-- An analysis that is kept alone is attended by nobody. -/
theorem attended_alone : alone.Attended fun _ => True where
  looksOn := fun _ _ before calm => (ensures_pure () _).mpr ⟨.refl before, calm⟩
  read_write := fun _ _ _ => rfl
  calm_write := fun _ _ calm => calm

/-- An analysis of a session is attended by the listeners of the session, if they have no requests
to make. -/
theorem attended_seatAt (run : Request → Act Session Response) (place : Nat) :
    (Session.seatAt (Session.publish run) place).Attended fun session =>
      session.Idle ∧ place < session.analyses.length where
  looksOn := by
    rintro analysis event before ⟨⟨idle, bound⟩, read⟩
    have told := Session.looksOn_publish run before.rest.analyses event before ⟨idle, rfl⟩
    refine told.mono ?_
    rintro _ after ⟨same, idleStill, analyses⟩
    refine ⟨same, ⟨idleStill, analyses ▸ bound⟩, ?_⟩
    exact (congrArg (fun analyses => analyses[place]?.getD default) analyses).trans read
  read_write := by
    rintro session analysis ⟨_, bound⟩
    show (session.analyses.set place analysis)[place]?.getD default = analysis
    rw [List.getElem?_set_self bound, Option.getD_some]
  calm_write := by
    rintro session analysis ⟨idle, bound⟩
    refine ⟨idle, ?_⟩
    show place < (session.analyses.set place analysis).length
    rwa [List.length_set]

/-- An analysis of what the base asks for has the given membership, and its document the given
layout. -/
structure Underway
    (seat : AnalysisSeat η)
    (Calm : η → Prop)
    (base : Analysis)
    (members : Membership)
    (plan : Layout)
    (workspace : Workspace η) :
    Prop where
  calm : Calm workspace.rest
  graph : (seat.read workspace.rest).graph = base.graph
  document : (seat.read workspace.rest).document = base.document
  palette : (seat.read workspace.rest).palette = base.palette
  members : (seat.read workspace.rest).members = members
  laidOut : workspace.registry.LaidOut base.document plan

variable {base : Analysis} {members : Membership} {plan : Layout} {before : Workspace η}

@[simp]
theorem ensures_current (post : Analysis → Workspace η → Prop) :
    seat.current.Ensures before post ↔ post (seat.read before.rest) before := by
  simp [current]

@[simp]
theorem ensures_update (f : Analysis → Analysis) (post : Unit → Workspace η → Prop) :
    (seat.update f).Ensures before post ↔
      post () { before with rest := seat.write (f (seat.read before.rest)) before.rest } :=
  ensures_modifyRest _ post

namespace Underway

/-- Neither the watches nor the mounts, the bindings and the log matter. -/
theorem transfer
    {after : Workspace η}
    (underway : Underway seat Calm base members plan before)
    (registry : after.registry = before.registry)
    (rest : after.rest = before.rest) :
    Underway seat Calm base members plan after where
  calm := rest ▸ underway.calm
  graph := rest ▸ underway.graph
  document := rest ▸ underway.document
  palette := rest ▸ underway.palette
  members := rest ▸ underway.members
  laidOut := registry ▸ underway.laidOut

theorem withRegistry
    {after : Workspace η}
    {later : Layout}
    (underway : Underway seat Calm base members plan before)
    (laidOut : after.registry.LaidOut base.document later)
    (rest : after.rest = before.rest) :
    Underway seat Calm base members later after where
  calm := rest ▸ underway.calm
  graph := rest ▸ underway.graph
  document := rest ▸ underway.document
  palette := rest ▸ underway.palette
  members := rest ▸ underway.members
  laidOut := laidOut

/-- A change of the analysis that leaves what it was asked to do. -/
theorem update
    {later : Membership}
    (attended : seat.Attended Calm)
    (underway : Underway seat Calm base members plan before)
    (f : Analysis → Analysis)
    (graph : ∀ held, (f held).graph = held.graph)
    (document : ∀ held, (f held).document = held.document)
    (palette : ∀ held, (f held).palette = held.palette)
    (membership : (f (seat.read before.rest)).members = later) :
    Underway seat Calm base later plan
      { before with rest := seat.write (f (seat.read before.rest)) before.rest } := by
  have read := attended.read_write before.rest (f (seat.read before.rest)) underway.calm
  refine ⟨attended.calm_write _ _ underway.calm, ?_, ?_, ?_, ?_, underway.laidOut⟩
  · exact (congrArg Analysis.graph read).trans ((graph _).trans underway.graph)
  · exact (congrArg Analysis.document read).trans ((document _).trans underway.document)
  · exact (congrArg Analysis.palette read).trans ((palette _).trans underway.palette)
  · exact (congrArg Analysis.members read).trans membership

end Underway

/-! ## Single steps -/

theorem keeps_note (notices : List Notice) :
    Keeps (seat.Underway Calm base members plan) (note notices) :=
  fun _ underway => (ensures_note notices _).mpr (underway.transfer rfl rfl)

theorem keeps_modify
    {f : Workspace η → Workspace η}
    (registry : ∀ workspace, (f workspace).registry = workspace.registry)
    (rest : ∀ workspace, (f workspace).rest = workspace.rest) :
    Keeps (seat.Underway Calm base members plan) (modify f) :=
  fun before underway =>
    (ensures_modify f _).mpr (underway.transfer (registry before) (rest before))

theorem keeps_modifyMount (place : Nat) (f : Mount → Mount) :
    Keeps (seat.Underway Calm base members plan) (modifyMount place f) :=
  keeps_modify (fun _ => rfl) fun _ => rfl

theorem keeps_update
    (attended : seat.Attended Calm)
    {f : Analysis → Analysis}
    (graph : ∀ held, (f held).graph = held.graph)
    (document : ∀ held, (f held).document = held.document)
    (palette : ∀ held, (f held).palette = held.palette)
    (membership : ∀ held, (f held).members = held.members) :
    Keeps (seat.Underway Calm base members plan) (seat.update f) :=
  fun _ underway => (ensures_update f _).mpr
    (underway.update attended f graph document palette ((membership _).trans underway.members))

theorem keeps_current : Keeps (seat.Underway Calm base members plan) seat.current :=
  fun _ underway => (ensures_current _).mpr underway

theorem keeps_tell (attended : seat.Attended Calm) (events : List Event) :
    Keeps (seat.Underway Calm base members plan) (events.forM seat.tell) := by
  intro before underway
  have told := (attended.looksOn (seat.read before.rest)).ensures_told ⟨underway.calm, rfl⟩ events
  refine told.mono ?_
  rintro _ after ⟨_, same, calm, read⟩
  exact ⟨calm, read ▸ underway.graph, read ▸ underway.document, read ▸ underway.palette,
    read ▸ underway.members, same.registry ▸ underway.laidOut⟩

/-- An operation that leaves the layout of the document. -/
theorem keeps_perform
    {α : Type}
    (attended : seat.Attended Calm)
    {operation : Registry → Change α}
    (laidOut : ∀ registry : Registry, registry.LaidOut base.document plan →
      (operation registry).registry.LaidOut base.document plan) :
    Keeps (seat.Underway Calm base members plan) (perform seat.tell operation) := by
  intro before underway
  rw [ensures_perform]
  exact keeps_tell attended _ _
    (underway.withRegistry (laidOut before.registry underway.laidOut) rfl)

theorem keeps_declare
    (attended : seat.Attended Calm)
    (space : Namespace)
    (document : String)
    (symbol : Symbol) :
    Keeps (seat.Underway Calm base members plan)
      (perform seat.tell fun registry => registry.declare space document symbol) :=
  keeps_perform attended fun _ laidOut => laidOut.declare space document symbol

theorem keeps_remove
    (attended : seat.Attended Calm)
    (space : Namespace)
    (document name : String)
    (scopeId : Option String) :
    Keeps (seat.Underway Calm base members plan)
      (perform seat.tell fun registry => registry.remove space document name scopeId) :=
  keeps_perform attended fun _ laidOut => laidOut.remove space document name scopeId

/-! ## Declarations -/

theorem keeps_declareIn
    (attended : seat.Attended Calm)
    (place : Nat)
    (symbol : Symbol) :
    Keeps (seat.Underway Calm base members plan) (declareIn seat.tell place symbol) :=
  Keeps.declareIn (fun space document _ => keeps_declare attended space document _)
    (keeps_modifyMount place)

theorem keeps_rename (place : Nat) (name : Option String) :
    Keeps (seat.Underway Calm base members plan) (rename place name) :=
  keeps_modify (fun _ => rfl) fun _ => rfl

theorem keeps_binding? (place : Nat) :
    Keeps (seat.Underway Calm base members plan) (binding? place : Act η (Option Binding)) :=
  keeps_get.bind fun workspace => keeps_pure workspace.bindings[place]?

/-- A binding is brought in step wherever its symbol can be built. -/
theorem keeps_sync
    (attended : seat.Attended Calm)
    (place : Nat)
    (name : Option String)
    (build : Option String → String → Symbol) :
    Keeps (seat.Underway Calm base members plan)
      (sync seat.tell place name fun scopeId wanted => .ok (build scopeId wanted)) :=
  Keeps.sync (fun space document _ _ => keeps_declare attended space document _)
    (keeps_remove attended) (keeps_rename place) name

/-! ## Sockets -/

theorem keeps_context (nodeId : String) (feeds : GraphFeeds) :
    Keeps (seat.Underway Calm base members plan) (seat.context nodeId feeds) := by
  intro before underway
  have forest := underway.laidOut.forest
  rw [← underway.document] at forest
  obtain ⟨surroundings, found⟩ := Registry.exists_ofRegistry forest
    ((seat.read before.rest).members.scopeOf nodeId) (feeds.getD nodeId ∅)
  simp only [context, ensures_bind, ensures_current, ensures_registry, found, ensures_ofTree_ok]
  exact underway

theorem keeps_resolve (feeds : GraphFeeds) (node : GraphNode) :
    Keeps (seat.Underway Calm base members plan) (seat.resolve feeds node) :=
  (keeps_context node.id feeds).bind fun _ => keeps_current.bind fun _ =>
    Keeps.bind (keeps_note _) fun _ => keeps_pure _

theorem keeps_resolveAll (feeds : GraphFeeds) :
    Keeps (seat.Underway Calm base members plan) (seat.resolveAll feeds) :=
  keeps_current.bind fun _ =>
    (Keeps.mapM fun node => keeps_resolve feeds node).bind fun _ => keeps_pure _

theorem keeps_feedsAfter (feeds : GraphFeeds) :
    Keeps (seat.Underway Calm base members plan) (seat.feedsAfter feeds) :=
  (keeps_resolveAll feeds).bind fun _ => keeps_current.bind fun _ => keeps_pure _

/-! ## Declaring nodes -/

/-- The binding of a node is there already, or it is made and written down. -/
theorem keeps_bindingOf_of
    {Kept : Workspace η → Prop}
    (reads : Keeps Kept seat.current)
    (modifies : ∀ f : List Binding → List Binding, Keeps Kept
      (modify fun workspace => { workspace with bindings := f workspace.bindings }))
    (writes : ∀ f : OrderedMap String Nat → OrderedMap String Nat, Keeps Kept
      (seat.update fun held => { held with declarations := f held.declarations }))
    (space : Namespace)
    (nodeId : String) :
    Keeps Kept (seat.bindingOf space nodeId) := by
  unfold bindingOf
  refine reads.bind fun analysis => ?_
  cases analysis.declarations.get? nodeId with
  | some place => exact keeps_pure place
  | none =>
      refine Keeps.bind ?_ fun place => ?_
      · exact keeps_get.bind fun workspace =>
          (modifies fun bindings => bindings ++ [_]).bind fun _ => keeps_pure _
      · exact (writes fun declarations => declarations.insert nodeId place).bind fun _ =>
          keeps_pure place

theorem keeps_bindingOf
    (attended : seat.Attended Calm)
    (space : Namespace)
    (nodeId : String) :
    Keeps (seat.Underway Calm base members plan) (seat.bindingOf space nodeId) :=
  keeps_bindingOf_of keeps_current (fun _ => keeps_modify (fun _ => rfl) fun _ => rfl)
    (fun _ => keeps_update attended (fun _ => rfl) (fun _ => rfl) (fun _ => rfl) fun _ => rfl)
    space nodeId

theorem keeps_declareNode
    (attended : seat.Attended Calm)
    (space : Namespace)
    (feeds : GraphFeeds)
    (node : GraphNode) :
    Keeps (seat.Underway Calm base members plan) (seat.declareNode space feeds node) := by
  unfold declareNode
  refine keeps_current.bind fun analysis => ?_
  cases analysis.palette.get? node.kind with
  | none => exact keeps_pure ()
  | some kind =>
      dsimp only
      split
      · exact keeps_pure ()
      · refine (keeps_context node.id feeds).bind fun context => (keeps_note _).bind fun _ => ?_
        refine (keeps_bindingOf attended space node.id).bind fun place => ?_
        refine (keeps_binding? place).bind fun found => ?_
        cases kind.declaredSymbol node.stored context with
        | none => exact (keeps_sync attended place none _).discard
        | some symbol => exact (keeps_sync attended place (some symbol.name) _).discard

theorem keeps_declareAll
    (attended : seat.Attended Calm)
    (space : Namespace)
    (feeds : GraphFeeds) :
    Keeps (seat.Underway Calm base members plan) (seat.declareAll space feeds) :=
  keeps_current.bind fun _ =>
    (Keeps.forIn fun node => keeps_declareNode attended space feeds node).bind fun _ =>
      keeps_pure ()

end LuauNodes.AnalysisSeat
