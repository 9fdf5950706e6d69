import LuauNodes.Proofs.Graph.Closing
import LuauNodes.Proofs.Graph.Seating

/-!
# Types of set variables

A set variable is to have the type that feeds it.  An analysis resolves the
sockets of all nodes before it declares the variables, takes the types that feed
them from there, and resolves the sockets anew afterwards.  So the types are
those of the final sockets wherever declaring the variables changes nothing of
what feeds them: where no variable that the graph sets is read into another one.
-/

namespace LuauNodes

/-- A node that sets a variable reads none. -/
theorem Palette.readName?_of_setName?
    {palette : Palette}
    {node : GraphNode}
    {name : String}
    (sets : palette.setName? node = some name) :
    palette.readName? node = none := by
  obtain ⟨kind, available, own⟩ := Option.bind_eq_some_iff.mp sets
  rw [readName?, available, Option.bind_some]
  generalize kind.configOf node.stored = config at own ⊢
  generalize kind.shape = shape at config
  cases shape with
  | variableSet => rfl
  | _ => cases own

namespace Graph

variable {graph : Graph} {palette : Palette} {document : String} {members : Membership}

/-- A node that feeds an input reads a variable that the graph sets. -/
def FedByVariable
    (graph : Graph)
    (palette : Palette)
    (resolved : ResolvedNodes)
    (id handle : String) :
    Prop :=
  ∃ edge ∈ graph.edges, edge.target = id ∧ targetHandle? resolved edge = some handle ∧
    ∃ source ∈ graph.nodes, source.id = edge.source ∧
      ∃ name, palette.readName? source = some name ∧
        ∃ setter ∈ graph.nodes, palette.setName? setter = some name

/-- The sockets of a graph are those of its nodes in a registry, with the very types that the
sockets feed; and set variables have these types in the registry. -/
structure Typed
    (graph : Graph)
    (palette : Palette)
    (document : String)
    (members : Membership)
    (registry : Registry)
    (resolved : ResolvedNodes) :
    Prop where
  sockets : graph.ResolvedIn palette document members registry (graph.feeds resolved) resolved
  vars : ∀ node name, graph.LastToSet palette members node name →
    ¬ graph.FedByVariable palette resolved node.id "value" →
    ∃ found, (registry.table .vars).lookup? document ⟨members.scopeOf node.id, name⟩ =
        some found ∧
      found.type = (feedOf? (graph.feeds resolved) node.id "value").getD .any

theorem Seated.declareEach
    {registry : Registry}
    (seated : graph.Seated document members registry)
    (space : Namespace)
    (symbols : List Symbol) :
    graph.Seated document members (registry.declareEach space document symbols) := by
  intro node member id inside
  rw [Registry.has_declareEach]
  exact seated node member id inside

/-- The passes of an analysis type the variables. -/
theorem typed_of_passes
    {registry : Registry}
    {early middle resolved : ResolvedNodes}
    (reachable : registry.Reachable)
    (seated : graph.Seated document members registry)
    (first : graph.ResolvedIn palette document members registry ∅ early) :
    let final := registry.declareEach .vars document
      (graph.declaredIn palette .vars members (graph.feeds early))
    graph.ResolvedIn palette document members final ∅ middle →
      graph.ResolvedIn palette document members final (graph.feeds middle) resolved →
      graph.Typed palette document members final resolved := by
  intro final second third
  have consistent := (reachable.declareEach .vars document
    (graph.declaredIn palette .vars members (graph.feeds early))).consistent document
  have settled : graph.feeds middle = graph.feeds resolved :=
    second.feeds_eq consistent (seated.declareEach .vars _) third
  constructor
  case sockets =>
    rw [← settled]
    exact third
  case vars =>
    intro node name last alone
    obtain ⟨found, stored, type⟩ := last.exists_variable seated (graph.feeds early)
    refine ⟨found, stored, ?_⟩
    rw [type]
    obtain ⟨sets, earlier, later, split, -⟩ := last
    have member : node ∈ graph.nodes := by simp [split]
    have comparable : graph.Comparable document members registry final :=
      comparable_declareVars reachable seated (graph.feeds early)
    rw [comparable.feedOf?_eq first third member (palette.readName?_of_setName? sets) ?_]
    intro edge among ends into source sourceMember begins read reads
    refine agreesOnName_of_unset reachable (graph.feeds early) fun setter setterMember sets => ?_
    exact alone ⟨edge, among, ends, into, source, sourceMember, begins, read, reads, setter,
      setterMember, sets⟩

end Graph

/-- An analysis has not begun, or it is done. -/
def Analysis.Rests (analysis : Analysis) : Prop :=
  analysis.analyzed = true ∨
    analysis = .prepare analysis.graph analysis.document analysis.palette

namespace AnalysisSeat

open Act

variable {η : Type} {seat : AnalysisSeat η} {Calm : η → Prop} {before : Workspace η}
variable {graph : Graph} {document : String} {palette : Palette}

theorem StandsOn.ensures_assign
    (attended : seat.Attended Calm)
    (standsOn : seat.StandsOn Calm (.prepare graph document palette) [] before) :
    seat.assign.Ensures before fun _ after =>
      seat.StandsOn Calm { Analysis.prepare graph document palette with
        members := Graph.assignScopes palette graph ∅ } [] after := by
  unfold assign
  simp only [ensures_bind, ensures_current, ensures_update, ensures_note]
  have updated := standsOn.update attended
    (fun held => { held with members := Graph.assignScopes held.palette held.graph held.members })
    fun _ => rfl
  exact updated.transfer rfl rfl

/-- What an analysis does once the scopes are mounted. -/
def settle (seat : AnalysisSeat η) : Act η GraphReport := do
  seat.declareAll .functions ∅
  seat.declareAll .vars (← seat.feedsAfter ∅)
  let resolved ← seat.resolveAll (← seat.feedsAfter ∅)
  seat.update fun held => { held with sockets := resolved, analyzed := true }
  let report ← seat.report
  note [finishedNotice report]
  return report

/-- An analysis of a graph is done in a registry that some run comes to.  Every scope in which a
node sits is stored, the variables are typed, and the report shows every node where it sits and
with its sockets, and every edge that these sockets do not allow. -/
structure Concluded
    (seat : AnalysisSeat η)
    (Calm : η → Prop)
    (graph : Graph)
    (document : String)
    (palette : Palette)
    (report : GraphReport)
    (workspace : Workspace η) :
    Prop where
  calm : Calm workspace.rest
  sameGraph : (seat.read workspace.rest).graph = graph
  sameDocument : (seat.read workspace.rest).document = document
  samePalette : (seat.read workspace.rest).palette = palette
  reachable : workspace.registry.Reachable
  seated : graph.Seated document (seat.read workspace.rest).members workspace.registry
  typed : graph.Typed palette document (seat.read workspace.rest).members workspace.registry
    (seat.read workspace.rest).sockets
  nodes : report.nodes = graph.nodes.map fun node =>
    ⟨node.id, node.kind, (seat.read workspace.rest).members.scopeOf node.id,
      (seat.read workspace.rest).sockets.getD node.id (.sound [] [])⟩
  issues : report.issues = graph.edgeIssues (seat.read workspace.rest).sockets

/-- Where the scopes in which nodes sit are stored, an analysis without declarations comes to its
end. -/
theorem ensures_settle
    (attended : seat.Attended Calm)
    {analysis : Analysis}
    {registry : Registry}
    (stands : seat.Stands Calm analysis registry before)
    (reachable : registry.Reachable)
    (seated : analysis.graph.Seated analysis.document analysis.members registry)
    (distinct : (analysis.graph.nodes.map GraphNode.id).Nodup)
    (unbound : ∀ id, analysis.declarations.get? id = none) :
    seat.settle.Ensures before
      (seat.Concluded Calm analysis.graph analysis.document analysis.palette) := by
  unfold settle
  rw [ensures_bind]
  refine (stands.ensures_declareAll attended reachable distinct .functions ∅
    fun node _ _ => unbound node.id).mono ?_
  rintro _ _ ⟨declared, stands, kept⟩
  have defined := reachable.declareEach .functions analysis.document
    (analysis.graph.declaredIn analysis.palette .functions analysis.members ∅)
  have free : ∀ node ∈ analysis.graph.nodes, analysis.palette.DeclaresIn .vars node →
      declared.get? node.id = none := by
    intro node member declares
    rw [kept node.id fun other otherMember declaresToo same => ?_]
    · exact unbound node.id
    · obtain rfl := List.inj_on_of_nodup_map distinct otherMember member same
      exact declares.apart declaresToo
  rw [ensures_bind]
  refine (ensures_feedsAfter stands (defined.consistent _) distinct ∅).mono ?_
  rintro _ _ ⟨early, first, rfl, stands⟩
  have consistent := (defined.declareEach .vars analysis.document (analysis.graph.declaredIn
    analysis.palette .vars analysis.members (analysis.graph.feeds early))).consistent
      analysis.document
  rw [ensures_bind]
  refine (stands.ensures_declareAll attended defined distinct .vars _ free).mono ?_
  rintro _ _ ⟨_, stands, -⟩
  rw [ensures_bind]
  refine (ensures_feedsAfter stands consistent distinct ∅).mono ?_
  rintro _ _ ⟨middle, second, rfl, stands⟩
  rw [ensures_bind]
  refine (ensures_resolveAll stands consistent distinct _).mono ?_
  rintro resolved last ⟨third, stands⟩
  have finished := stands.update attended
    fun held => { held with sockets := resolved, analyzed := true }
  simp only [ensures_bind, ensures_update, report, ensures_current, ensures_registry, ensures_pure,
    ensures_note]
  constructor
  case calm => exact finished.calm
  case sameGraph => rw [finished.read]
  case sameDocument => rw [finished.read]
  case samePalette => rw [finished.read]
  case reachable =>
    rw [stands.registry]
    exact defined.declareEach .vars analysis.document _
  case seated =>
    rw [finished.read, stands.registry]
    exact (seated.declareEach .functions _).declareEach .vars _
  case typed =>
    rw [finished.read, stands.registry]
    exact Graph.typed_of_passes defined (seated.declareEach .functions _) first second third
  case nodes => rw [finished.read]
  case issues => rw [finished.read]

/-- An analysis that has not begun comes to its end. -/
theorem StandsOn.concludes_anew
    (attended : seat.Attended Calm)
    (begun : seat.StandsOn Calm (.prepare graph document palette) [] before)
    (distinct : (graph.nodes.map GraphNode.id).Nodup)
    (inner : palette.Inner) :
    seat.anew.Ensures before (seat.Concluded Calm graph document palette) := by
  have owned : ∀ owner ∈ Graph.outermostFirst (Graph.owners palette graph)
      (Graph.assignScopes palette graph ∅),
      Graph.ownedKind? palette owner.1 = some owner.2 ∧ owner.2 ≠ .global :=
    fun owner member => inner.owned ((Graph.mem_outermostFirst owner).mp member)
  unfold anew replay
  rw [ensures_bind]
  refine (begun.ensures_assign attended).mono fun _ _ assigned => ?_
  rw [ensures_bind, ensures_current, assigned.read, ensures_bind]
  refine ((seating_assigned graph document palette _).ensures_mountOwners attended assigned
    owned).mono ?_
  rintro _ _ ⟨analysis, seating, mounted⟩
  have seated := seating.seated distinct
    (fun owner member => (Graph.mem_outermostFirst owner).mpr member) mounted
  obtain ⟨rfl, rfl, rfl, undeclared, -⟩ := seating
  refine ensures_settle attended mounted.stands mounted.reachable seated distinct fun id => ?_
  rw [undeclared]
  rfl

/-- An analysis that has not begun types the variables of its graph. -/
theorem StandsOn.ensures_anew
    (attended : seat.Attended Calm)
    (begun : seat.StandsOn Calm (.prepare graph document palette) [] before)
    (distinct : (graph.nodes.map GraphNode.id).Nodup)
    (inner : palette.Inner) :
    seat.anew.Ensures before fun _ after =>
      let final := seat.read after.rest
      graph.Typed palette document final.members after.registry final.sockets :=
  (begun.concludes_anew attended distinct inner).mono fun _ _ concluded => concluded.typed

/-- An analysis that has not begun or is done types the variables of its graph. -/
theorem Attended.analyze_typed
    (attended : seat.Attended Calm)
    (calm : Calm before.rest)
    {analysis : Analysis}
    (held : seat.read before.rest = analysis)
    (rests : analysis.Rests)
    (inner : analysis.palette.Inner)
    (distinct : (analysis.graph.nodes.map GraphNode.id).Nodup)
    (reachable : before.registry.Reachable) :
    seat.analyze.Ensures before fun _ after =>
      let final := seat.read after.rest
      analysis.graph.Typed analysis.palette analysis.document final.members after.registry
        final.sockets := by
  have standsOn : seat.StandsOn Calm analysis [] before :=
    ⟨calm, held, reachable, fun id among => by cases among⟩
  rcases rests with analyzed | fresh
  · rw [ensures_congr (outcome_analyze_again (by rw [held, analyzed])), ensures_bind]
    exact (standsOn.ensures_close attended).mono fun _ _ closed =>
      closed.ensures_anew attended distinct inner
  · rw [ensures_congr (outcome_analyze (by rw [held, fresh]; rfl))]
    rw [fresh] at standsOn
    exact standsOn.ensures_anew attended distinct inner

/-! ### Variables that are set to variables -/

/-- A number is set as one variable, which is read and set as another one. -/
def relayed : Graph where
  nodes :=
    [⟨"num", "Number", []⟩,
     ⟨"set-a", "VariableSet", [("variableName", .text "a")]⟩,
     ⟨"get-a", "VariableGet", [("variableName", .text "a")]⟩,
     ⟨"set-b", "VariableSet", [("variableName", .text "b")]⟩]
  edges :=
    [⟨"e1", "num", "set-a", some "output", some "value", []⟩,
     ⟨"e2", "get-a", "set-b", some "value", some "value", []⟩]

theorem analyze_typed_relayed :
    (relayed.nodes.map GraphNode.id).Nodup ∧ (∅ : Registry).Reachable ∧
      (∀ members, relayed.LastToSet .standard members
        ⟨"set-a", "VariableSet", [("variableName", .text "a")]⟩ "a") ∧
      (∀ resolved, ¬ relayed.FedByVariable .standard resolved "set-a" "value") ∧
      alone.analyze.Ensures (Workspace.fresh (.prepare relayed "graph" .standard)) fun _ after =>
        let final := alone.read after.rest
        relayed.Typed .standard "graph" final.members after.registry final.sockets := by
  have distinct : (relayed.nodes.map GraphNode.id).Nodup := by decide
  have reachable : (∅ : Registry).Reachable := ⟨[], .start⟩
  refine ⟨distinct, reachable, fun members => ?_, ?_, attended_alone.analyze_typed trivial rfl
    (Or.inr rfl) Palette.inner_standard distinct reachable⟩
  · have only : ∀ other ∈ relayed.nodes, Palette.standard.setName? other = some "a" →
        other.id = "set-a" := by
      decide +kernel
    exact Graph.lastToSet_of_only distinct (by simp [relayed]) (by decide +kernel)
      fun other among sets _ => only other among sets
  · rintro resolved ⟨edge, among, ends, -, source, member, begins, name, reads, -⟩
    have unread : ∀ edge ∈ relayed.edges, edge.target = "set-a" →
        ∀ source ∈ relayed.nodes, source.id = edge.source →
          Palette.standard.readName? source = none := by
      decide +kernel
    rw [unread edge among ends source member begins] at reads
    cases reads

/-- The second variable is declared as the wildcard, though a number feeds it in the end. -/
theorem alone_analyze_relayed :
    (relayed.nodes.map GraphNode.id).Nodup ∧
      (relayed.nodes.filter fun node => Palette.standard.setName? node == some "b").map
        GraphNode.id = ["set-b"] ∧
      alone.analyze.Ensures (Workspace.fresh (.prepare relayed "graph" .standard)) fun _ after =>
        let final := alone.read after.rest
        ((after.registry.table .vars).lookup? "graph"
            ⟨final.members.scopeOf "set-b", "b"⟩).map Symbol.type = some .any ∧
          Graph.feedOf? (relayed.feeds final.sockets) "set-b" "value" = some .number := by
  have ordered : Graph.outermostFirst (Graph.owners .standard relayed)
      (Graph.assignScopes .standard relayed ∅) = Graph.owners .standard relayed :=
    List.mergeSort_of_pairwise (by decide +kernel)
  refine ⟨by decide, by decide +kernel, ensures_of_isOk ?_ ?_⟩ <;>
    (rw [outcome_analyze_prepare, ordered]; decide +kernel)

end AnalysisSeat

end LuauNodes
