import LuauNodes.Proofs.Graph.Closing
import LuauNodes.Proofs.Graph.Copying

/-!
# Analysing again

An analysis that is made again closes first, and so it starts from the registry
that the first one found.  What differs is what else the workspace holds, and on
that nothing depends: every analysis of the same graph in the same registry is a
copy of one that is kept alone.  So they all come to one report and leave one
registry.
-/

namespace LuauNodes.AnalysisSeat

open Act

variable {η : Type} {seat : AnalysisSeat η} {Calm : η → Prop} {bound mounted : Nat}

/-! ## Copies of an analysis -/

theorem copies_assign (attended : seat.Attended Calm) :
    seat.Copies Calm bound mounted (fun _ _ => True) seat.assign alone.assign := by
  refine copies_current.bind ?_
  rintro _ analysis rfl
  exact Copies.bind (copies_update attended _ _ fun _ => rfl) fun _ _ _ => copies_note _

theorem copies_mountOwner
    (attended : seat.Attended Calm)
    (owner : GraphNode)
    (scopeKind : ScopeKind) :
    seat.Copies Calm bound mounted (fun _ _ => True) (seat.mountOwner owner scopeKind)
      (alone.mountOwner owner scopeKind) := by
  refine copies_current.bind ?_
  rintro _ analysis rfl
  dsimp -zeta only [Analysis.behind]
  cases analysis.palette.get? owner.kind with
  | none => exact copies_pure trivial
  | some kind =>
      extract_lets wanted
      refine copies_registry.bind ?_
      rintro registry _ rfl
      extract_lets parent mounts parentToo originals
      have copiesMounts : ∀ done, seat.Copies Calm bound mounted (fun _ _ => True) (mounts done)
          (originals done) := by
        intro done
        refine (copies_note _).bind fun _ _ _ => ?_
        refine (copies_mountScope attended _ _ _ _ _ _).bind ?_
        rintro _ place rfl
        refine copies_update attended _ _ fun held => ?_
        simp only [Analysis.behind, OrderedMap.insert_mapValues]
      change seat.Copies _ _ _ _ (ite ((parent.isNone && wanted.isSome) = true) _ _)
        (ite ((parent.isNone && wanted.isSome) = true) _ _)
      split
      · exact Copies.bind (copies_update attended _ _ fun _ => rfl) fun _ _ _ => copiesMounts ()
      · exact copiesMounts ()

/-! ### Sockets -/

theorem copies_context (nodeId : String) (feeds : GraphFeeds) :
    seat.Copies Calm bound mounted Eq (seat.context nodeId feeds) (alone.context nodeId feeds) := by
  refine copies_current.bind ?_
  rintro _ analysis rfl
  refine copies_registry.bind ?_
  rintro registry _ rfl
  exact copies_ofTree _

theorem copies_resolve (feeds : GraphFeeds) (node : GraphNode) :
    seat.Copies Calm bound mounted Eq (seat.resolve feeds node) (alone.resolve feeds node) := by
  refine (copies_context node.id feeds).bind ?_
  rintro context _ rfl
  refine copies_current.bind ?_
  rintro _ analysis rfl
  exact (copies_note _).bind fun _ _ _ => copies_pure rfl

theorem copies_resolveAll (feeds : GraphFeeds) :
    seat.Copies Calm bound mounted Eq (seat.resolveAll feeds) (alone.resolveAll feeds) := by
  refine copies_current.bind ?_
  rintro _ analysis rfl
  refine (Copies.mapM fun node => copies_resolve feeds node).bind ?_
  rintro resolved _ rfl
  exact copies_pure rfl

theorem copies_feedsAfter (feeds : GraphFeeds) :
    seat.Copies Calm bound mounted Eq (seat.feedsAfter feeds) (alone.feedsAfter feeds) := by
  refine (copies_resolveAll feeds).bind ?_
  rintro resolved _ rfl
  refine copies_current.bind ?_
  rintro _ analysis rfl
  exact copies_pure rfl

/-! ### Declarations -/

theorem copies_bindingOf
    (attended : seat.Attended Calm)
    (space : Namespace)
    (nodeId : String) :
    seat.Copies Calm bound mounted (fun copied origin => copied = bound + origin)
      (seat.bindingOf space nodeId) (alone.bindingOf space nodeId) := by
  refine copies_current.bind ?_
  rintro _ analysis rfl
  simp only [Analysis.behind, OrderedMap.get?_mapValues]
  cases analysis.declarations.get? nodeId with
  | some place => exact copies_pure rfl
  | none =>
      refine (copies_addBinding _ _ _).bind ?_
      rintro _ place rfl
      refine Copies.bind (copies_update attended _ _ fun held => ?_) fun _ _ _ =>
        copies_pure rfl
      simp only [Analysis.behind, OrderedMap.insert_mapValues]

theorem copies_declareNode
    (attended : seat.Attended Calm)
    (space : Namespace)
    (feeds : GraphFeeds)
    (node : GraphNode) :
    seat.Copies Calm bound mounted (fun _ _ => True) (seat.declareNode space feeds node)
      (alone.declareNode space feeds node) := by
  refine copies_current.bind ?_
  rintro _ analysis rfl
  dsimp only [Analysis.behind]
  cases analysis.palette.get? node.kind with
  | none => exact copies_pure trivial
  | some kind =>
      dsimp only
      split
      · exact copies_pure trivial
      · refine (copies_context node.id feeds).bind ?_
        rintro context _ rfl
        refine (copies_note _).bind fun _ _ _ => ?_
        refine (copies_bindingOf attended space node.id).bind ?_
        rintro _ place rfl
        refine (copies_binding? place).bind ?_
        rintro found _ rfl
        cases kind.declaredSymbol node.stored context with
        | none => exact (copies_sync attended place none _).discard
        | some symbol => exact (copies_sync attended place (some symbol.name) _).discard

theorem copies_declareAll
    (attended : seat.Attended Calm)
    (space : Namespace)
    (feeds : GraphFeeds) :
    seat.Copies Calm bound mounted (fun _ _ => True) (seat.declareAll space feeds)
      (alone.declareAll space feeds) := by
  refine copies_current.bind ?_
  rintro _ analysis rfl
  exact (Copies.forIn fun node => copies_declareNode attended space feeds node).bind
    fun _ _ _ => copies_pure trivial

/-! ### The whole -/

theorem copies_report :
    seat.Copies Calm bound mounted Eq seat.report alone.report := by
  refine copies_current.bind ?_
  rintro _ analysis rfl
  refine copies_registry.bind ?_
  rintro registry _ rfl
  dsimp only [Analysis.behind]
  exact copies_pure rfl

theorem copies_replay
    (attended : seat.Attended Calm)
    (order : List (GraphNode × ScopeKind)) :
    seat.Copies Calm bound mounted Eq (seat.replay order) (alone.replay order) := by
  have mounts : seat.Copies Calm bound mounted (fun _ _ => True)
      (forIn order PUnit.unit fun (owner : GraphNode × ScopeKind) _ => do
        seat.mountOwner owner.1 owner.2
        pure (ForInStep.yield PUnit.unit))
      (forIn order PUnit.unit fun (owner : GraphNode × ScopeKind) _ => do
        alone.mountOwner owner.1 owner.2
        pure (ForInStep.yield PUnit.unit)) :=
    Copies.forIn fun owner => copies_mountOwner attended owner.1 owner.2
  refine mounts.bind fun _ _ _ => ?_
  refine (copies_declareAll attended .functions ∅).bind fun _ _ _ => ?_
  refine (copies_feedsAfter ∅).bind ?_
  rintro feeds _ rfl
  refine (copies_declareAll attended .vars feeds).bind fun _ _ _ => ?_
  refine (copies_feedsAfter ∅).bind ?_
  rintro feeds _ rfl
  refine (copies_resolveAll feeds).bind ?_
  rintro resolved _ rfl
  refine Copies.bind (copies_update attended _ _ fun _ => rfl) fun _ _ _ => ?_
  refine copies_report.bind ?_
  rintro report _ rfl
  exact (copies_note _).bind fun _ _ _ => copies_pure rfl

theorem copies_anew (attended : seat.Attended Calm) :
    seat.Copies Calm bound mounted Eq seat.anew alone.anew := by
  refine (copies_assign attended).bind fun _ _ _ => ?_
  refine copies_current.bind ?_
  rintro _ analysis rfl
  exact copies_replay attended _

/-! ## One report and one registry -/

variable {graph : Graph} {document : String} {palette : Palette} {start : Registry}

/-- A workspace with a registry, in which an analysis is kept alone. -/
def original (registry : Registry) (analysis : Analysis) : Workspace Analysis :=
  { Workspace.fresh analysis with registry := registry }

/-- Every workspace with an analysis that has not begun is a copy of one in which the analysis is
kept alone. -/
theorem copied_original
    {before : Workspace η}
    (calm : Calm before.rest)
    (fresh : seat.read before.rest = .prepare graph document palette) :
    seat.Copied Calm before.bindings.length before.mounts.length
      (original before.registry (.prepare graph document palette)) before where
  calm := calm
  registry := rfl
  mounts := trails_nil _ _
  bindings := trails_nil _ _
  read := fresh

/-- Whoever analyses a graph comes to the same report, and leaves the same registry. -/
theorem exists_analyze_eq
    (inner : palette.Inner)
    (single : Graph.SingleScoped (Graph.owners palette graph))
    (reachable : start.Reachable)
    (bare : start.Bare document) :
    ∃ report last, ∀ {η : Type} {seat : AnalysisSeat η} {Calm : η → Prop},
      seat.Attended Calm → ∀ before : Workspace η, Calm before.rest → before.registry = start →
        seat.read before.rest = .prepare graph document palette →
        seat.analyze.Ensures before fun answer after =>
          answer = report ∧ after.registry = last := by
  have accounts : alone.analyze.Ensures (original start (.prepare graph document palette)) fun _ =>
      alone.Finished (fun _ => True) (.prepare graph document palette) start :=
    attended_alone.analyze_accounts trivial rfl inner single reachable bare
  obtain ⟨report, last, ends, -⟩ := accounts
  refine ⟨report, last.registry, ?_⟩
  rintro η seat Calm attended before calm rfl fresh
  rw [outcome_analyze rfl] at ends
  rw [ensures_congr (outcome_analyze (congrArg Analysis.analyzed fresh))]
  refine (copies_anew attended before _ (copied_original calm fresh) report last ends).mono ?_
  exact fun _ after ⟨same, copied⟩ => ⟨same, copied.registry⟩

/-! ## Analysing again -/

/-- Makes an analysis a number of times, and tells every time what registry is left. -/
def analyses (seat : AnalysisSeat η) (count : Nat) : Act η (List (GraphReport × Registry)) :=
  (List.range count).mapM fun _ => do
    let report ← seat.analyze
    return (report, ← registry)

/-- An analysis that holds something does what it would do once it is closed. -/
theorem ensures_analyze_again
    {before : Workspace η}
    {post : GraphReport → Workspace η → Prop}
    (analyzed : (seat.read before.rest).analyzed = true)
    (closes : seat.close.Ensures before fun _ closed =>
      (seat.read closed.rest).analyzed = false ∧ seat.analyze.Ensures closed post) :
    seat.analyze.Ensures before post := by
  rw [ensures_congr (outcome_analyze_again analyzed), ensures_bind]
  exact closes.mono fun _ closed ⟨fresh, again⟩ =>
    (ensures_congr (outcome_analyze fresh) post).mp again

/-- An analysis has not begun in a registry, or it was made there and accounts for what it holds. -/
inductive Ready
    (seat : AnalysisSeat η)
    (Calm : η → Prop)
    (graph : Graph)
    (document : String)
    (palette : Palette)
    (start : Registry)
    (workspace : Workspace η) :
    Prop where
  | fresh
      (calm : Calm workspace.rest)
      (same : workspace.registry = start)
      (read : seat.read workspace.rest = .prepare graph document palette)
  | finished (finished : seat.Finished Calm (.prepare graph document palette) start workspace)

/-- Whether an analysis begins or is made again, it comes to one report and one registry, and is
done. -/
theorem exists_ready_analyze_eq
    (attended : seat.Attended Calm)
    (inner : palette.Inner)
    (single : Graph.SingleScoped (Graph.owners palette graph))
    (reachable : start.Reachable)
    (bare : start.Bare document) :
    ∃ report last, ∀ workspace, seat.Ready Calm graph document palette start workspace →
      seat.analyze.Ensures workspace fun answer after =>
        (answer = report ∧ after.registry = last) ∧
          seat.Finished Calm (.prepare graph document palette) start after := by
  obtain ⟨report, last, determined⟩ := exists_analyze_eq inner single reachable bare
  refine ⟨report, last, ?_⟩
  have begins : ∀ workspace, Calm workspace.rest → workspace.registry = start →
      seat.read workspace.rest = .prepare graph document palette →
      seat.analyze.Ensures workspace fun answer after =>
        (answer = report ∧ after.registry = last) ∧
          seat.Finished Calm (.prepare graph document palette) start after := by
    rintro workspace calm rfl read
    exact (determined attended workspace calm rfl read).and
      (attended.analyze_accounts calm read inner single reachable bare)
  rintro workspace (⟨calm, same, read⟩ | finished)
  · exact begins workspace calm same read
  · refine ensures_analyze_again finished.analyzed ?_
    refine (finished.ensures_close attended reachable bare).mono ?_
    rintro _ closed ⟨same, calm, read⟩
    exact ⟨congrArg Analysis.analyzed read, begins closed calm same read⟩

/-- What an analysis leaves concerns no other document and no active scope. -/
theorem Finished.left_alone
    {after : Workspace η}
    (finished : seat.Finished Calm (.prepare graph document palette) start after)
    (reachable : start.Reachable)
    (bare : start.Bare document) :
    after.registry.without document = start.without document ∧
      after.registry.scopes.active = start.scopes.active := by
  obtain ⟨members, plan, done, -, accounting⟩ := finished.accounted
  have confined := accounting.confined
  have tidy := reachable.tidyAt document
  exact ⟨confined.elsewhere, Registry.active_eq_of_inactive
    (confined.reachable.tidyAt document) confined.inactive tidy (tidy.stack_eq_nil bare)
    confined.elsewhere⟩

/-- However often a graph with different identifiers is analysed in a document that held nothing,
every analysis comes to one report and leaves one registry, in which other documents and the active
scopes are as they were. -/
theorem Attended.analyses_agree
    (attended : seat.Attended Calm)
    {before : Workspace η}
    (calm : Calm before.rest)
    (fresh : seat.read before.rest = .prepare graph document palette)
    (inner : palette.Inner)
    (distinct : (graph.nodes.map GraphNode.id).Nodup)
    (reachable : before.registry.Reachable)
    (bare : before.registry.Bare document) :
    ∃ report last, last.without document = before.registry.without document ∧
      last.scopes.active = before.registry.scopes.active ∧
      ∀ count, (seat.analyses count).Ensures before fun answers _ =>
        answers = List.replicate count (report, last) := by
  have single : Graph.SingleScoped (Graph.owners palette graph) :=
    (Graph.distinctOwners_owners distinct).singleScoped
  obtain ⟨report, last, analyses⟩ :=
    exists_ready_analyze_eq attended inner single reachable bare
  have begun : seat.Ready Calm graph document palette before.registry before :=
    .fresh calm rfl fresh
  obtain ⟨_, after, -, ⟨-, rfl⟩, finished⟩ := analyses before begun
  obtain ⟨elsewhere, active⟩ := finished.left_alone reachable bare
  refine ⟨report, after.registry, elsewhere, active, fun count => ?_⟩
  have agreed : (seat.analyses count).Ensures before fun answers _ =>
      answers = List.replicate (List.range count).length (report, after.registry) := by
    refine ensures_mapM_replicate (seat.Ready Calm graph document palette before.registry)
      begun fun _ workspace ready => ?_
    rw [ensures_bind]
    refine (analyses workspace ready).mono ?_
    rintro _ last ⟨⟨rfl, same⟩, finished⟩
    simp only [ensures_bind, ensures_registry, ensures_pure, same, true_and]
    exact .finished finished
  rwa [List.length_range] at agreed

/-- Two loops lie in each other's bodies, and two nodes set the same variable. -/
def contested : Graph where
  nodes :=
    [⟨"first", "WhileLoop", []⟩,
     ⟨"second", "WhileLoop", []⟩,
     ⟨"x1", "VariableSet", [("variableName", .text "x")]⟩,
     ⟨"x2", "VariableSet", [("variableName", .text "x")]⟩]
  edges :=
    [⟨"e1", "first", "second", some "loop", some "prev", []⟩,
     ⟨"e2", "second", "first", some "loop", some "prev", []⟩]

theorem analyses_agree_contested :
    let before := Workspace.fresh (.prepare contested "graph" .standard)
    (contested.nodes.map GraphNode.id).Nodup ∧ before.registry.Reachable ∧
      before.registry.Bare "graph" ∧
      ∃ report last, last.without "graph" = before.registry.without "graph" ∧
        last.scopes.active = before.registry.scopes.active ∧
        ∀ count, (alone.analyses count).Ensures before fun answers _ =>
          answers = List.replicate count (report, last) := by
  intro before
  have distinct : (contested.nodes.map GraphNode.id).Nodup := by decide
  have reachable : before.registry.Reachable := ⟨[], .start⟩
  have bare : before.registry.Bare "graph" := ⟨fun space => by cases space <;> rfl, rfl⟩
  exact ⟨distinct, reachable, bare, attended_alone.analyses_agree trivial rfl
    Palette.inner_standard distinct reachable bare⟩

end LuauNodes.AnalysisSeat
