import LuauNodes.Proofs.Graph.DataFeeds

/-!
# Analyses of data

Execution order is no type of data.  While a graph offers nothing else to be
declared than data, an analysis declares nothing else: whatever it mounts or
declares leaves the document with symbols of data, so that every pass over the
sockets finds only such symbols, and what feeds a set variable is data again.
-/

namespace LuauNodes.AnalysisSeat

open Act

variable {η : Type} {seat : AnalysisSeat η} {Calm : η → Prop}
variable {graph : Graph} {document : String} {palette : Palette} {before : Workspace η}

/-- An analysis of a graph goes on in a registry that some run comes to, where all symbols of its
document are about data. -/
structure HandlesData
    (seat : AnalysisSeat η)
    (Calm : η → Prop)
    (graph : Graph)
    (document : String)
    (palette : Palette)
    (workspace : Workspace η) :
    Prop where
  calm : Calm workspace.rest
  sameGraph : (seat.read workspace.rest).graph = graph
  sameDocument : (seat.read workspace.rest).document = document
  samePalette : (seat.read workspace.rest).palette = palette
  reachable : workspace.registry.Reachable
  holds : workspace.registry.HoldsData document

namespace HandlesData

theorem transfer
    {after : Workspace η}
    (handles : seat.HandlesData Calm graph document palette before)
    (registry : after.registry = before.registry)
    (rest : after.rest = before.rest) :
    seat.HandlesData Calm graph document palette after where
  calm := rest ▸ handles.calm
  sameGraph := rest ▸ handles.sameGraph
  sameDocument := rest ▸ handles.sameDocument
  samePalette := rest ▸ handles.samePalette
  reachable := registry ▸ handles.reachable
  holds := registry ▸ handles.holds

theorem adopt
    {registry : Registry}
    {after : Workspace η}
    (handles : seat.HandlesData Calm graph document palette before)
    (adopts : seat.Adopts Calm before registry after)
    (reachable : registry.Reachable)
    (holds : registry.HoldsData document) :
    seat.HandlesData Calm graph document palette after where
  calm := adopts.calm
  sameGraph := adopts.read ▸ handles.sameGraph
  sameDocument := adopts.read ▸ handles.sameDocument
  samePalette := adopts.read ▸ handles.samePalette
  reachable := adopts.registry ▸ reachable
  holds := adopts.registry ▸ holds

end HandlesData

/-! ## Single steps -/

theorem keeps_handlesData_modify
    {f : Workspace η → Workspace η}
    (registry : ∀ workspace, (f workspace).registry = workspace.registry)
    (rest : ∀ workspace, (f workspace).rest = workspace.rest) :
    Keeps (seat.HandlesData Calm graph document palette) (modify f) :=
  fun before handles =>
    (ensures_modify f _).mpr (handles.transfer (registry before) (rest before))

theorem keeps_handlesData_note (notices : List Notice) :
    Keeps (seat.HandlesData Calm graph document palette) (note notices) :=
  keeps_handlesData_modify (fun _ => rfl) fun _ => rfl

theorem keeps_handlesData_modifyMount (place : Nat) (f : Mount → Mount) :
    Keeps (seat.HandlesData Calm graph document palette) (modifyMount place f) :=
  keeps_handlesData_modify (fun _ => rfl) fun _ => rfl

theorem keeps_handlesData_rename (place : Nat) (name : Option String) :
    Keeps (seat.HandlesData Calm graph document palette) (rename place name) :=
  keeps_handlesData_modify (fun _ => rfl) fun _ => rfl

theorem keeps_handlesData_current :
    Keeps (seat.HandlesData Calm graph document palette) seat.current :=
  fun _ handles => (ensures_current _).mpr handles

section Attended

variable (attended : seat.Attended Calm)

include attended

theorem keeps_handlesData_update
    {f : Analysis → Analysis}
    (sameGraph : ∀ held, (f held).graph = held.graph)
    (sameDocument : ∀ held, (f held).document = held.document)
    (samePalette : ∀ held, (f held).palette = held.palette) :
    Keeps (seat.HandlesData Calm graph document palette) (seat.update f) := by
  intro before handles
  have read := attended.read_write before.rest (f (seat.read before.rest)) handles.calm
  refine (ensures_update f _).mpr ⟨attended.calm_write _ _ handles.calm, ?_, ?_, ?_,
    handles.reachable, handles.holds⟩
  · exact (congrArg Analysis.graph read).trans ((sameGraph _).trans handles.sameGraph)
  · exact (congrArg Analysis.document read).trans ((sameDocument _).trans handles.sameDocument)
  · exact (congrArg Analysis.palette read).trans ((samePalette _).trans handles.samePalette)

theorem keeps_handlesData_perform
    {α : Type}
    {operation : Registry → Change α}
    (reachable : ∀ registry : Registry, registry.Reachable →
      (operation registry).registry.Reachable)
    (holds : ∀ registry : Registry, registry.HoldsData document →
      (operation registry).registry.HoldsData document) :
    Keeps (seat.HandlesData Calm graph document palette) (perform seat.tell operation) := by
  intro before handles
  refine (attended.ensures_perform handles.calm operation).mono ?_
  rintro _ after ⟨-, adopts⟩
  exact handles.adopt adopts (reachable _ handles.reachable) (holds _ handles.holds)

theorem keeps_handlesData_declare
    (space : Namespace)
    (written : String)
    {symbol : Symbol}
    (data : symbol.IsData) :
    Keeps (seat.HandlesData Calm graph document palette)
      (perform seat.tell fun registry => registry.declare space written symbol) :=
  keeps_handlesData_perform attended
    (fun _ reachable => reachable.of_effect (.declare space written symbol) rfl)
    fun _ holds => holds.declare space written data

theorem keeps_handlesData_remove
    (space : Namespace)
    (written name : String)
    (scopeId : Option String) :
    Keeps (seat.HandlesData Calm graph document palette)
      (perform seat.tell fun registry => registry.remove space written name scopeId) :=
  keeps_handlesData_perform attended
    (fun _ reachable => reachable.of_effect (.remove space written name scopeId) rfl)
    fun _ holds => holds.remove space written name scopeId

theorem keeps_handlesData_declareIn
    (place : Nat)
    {symbol : Symbol}
    (data : symbol.IsData) :
    Keeps (seat.HandlesData Calm graph document palette) (declareIn seat.tell place symbol) :=
  Keeps.declareIn
    (fun space written scopeId =>
      keeps_handlesData_declare attended space written (data.moved scopeId symbol.scopeKind))
    (keeps_handlesData_modifyMount place)

/-! ## Closing and assigning -/

theorem keeps_handlesData_close :
    Keeps (seat.HandlesData Calm graph document palette) seat.close := by
  have releases : ∀ place, Keeps (seat.HandlesData Calm graph document palette)
      (release seat.tell place) := fun place =>
    Keeps.release (keeps_handlesData_remove attended) (keeps_handlesData_rename place none)
  have unmounts : ∀ place, Keeps (seat.HandlesData Calm graph document palette)
      (unmount seat.tell place) := by
    intro place
    refine Keeps.unmount (fun written id => ?_) (keeps_handlesData_remove attended)
      (fun written id => ?_) (keeps_handlesData_modifyMount place) keeps_handlesData_note
    · exact keeps_handlesData_perform attended
        (fun _ reachable => reachable.of_effect (.exitScope written id) rfl)
        fun _ holds => holds.exitScope written id
    · exact keeps_handlesData_perform attended
        (fun _ reachable => reachable.of_effect (.destroyScope written id) rfl)
        fun _ holds => holds.destroyScope written id
  unfold close
  refine keeps_handlesData_current.bind fun analysis => (Keeps.forIn releases).bind fun _ => ?_
  refine Keeps.bind
    (keeps_handlesData_update attended (fun _ => rfl) (fun _ => rfl) fun _ => rfl) fun _ => ?_
  refine keeps_handlesData_current.bind fun _ => (Keeps.forIn unmounts).bind fun _ => ?_
  exact keeps_handlesData_update attended (fun _ => rfl) (fun _ => rfl) fun _ => rfl

theorem keeps_handlesData_assign :
    Keeps (seat.HandlesData Calm graph document palette) seat.assign :=
  keeps_handlesData_current.bind fun _ =>
    Keeps.bind (keeps_handlesData_update attended (fun _ => rfl) (fun _ => rfl) fun _ => rfl)
      fun _ => keeps_handlesData_note _

/-! ## Mounting -/

/-- Symbols of data are declared in the scope of a node. -/
theorem keeps_handlesData_mountScope
    (nodeId : String)
    {kind : ScopeKind}
    (inner : kind ≠ .global)
    (parent : Option String)
    {symbols : List Symbol}
    (data : ∀ symbol ∈ symbols, symbol.IsData) :
    Keeps (seat.HandlesData Calm graph document palette)
      (mountScope seat.tell document nodeId kind parent symbols false) := by
  intro before handles
  let scope : Scope := .fresh (scopeIdFor nodeId kind) kind parent (some nodeId)
  have scopeInner : scope.kind ≠ .global := inner
  obtain ⟨change, created, -⟩ :=
    handles.reachable.consistent.createScope document scopeInner
  have accepted : (Operation.createScope document scope).effect before.registry =
      .ok (change.registry, change.events) := by
    rw [Operation.effect, created]
    rfl
  unfold mountScope
  rw [ensures_bind]
  refine (attended.ensures_createScope handles.calm created).mono ?_
  rintro watch middle ⟨-, adopts⟩
  have grown := handles.adopt adopts (handles.reachable.of_effect _ accepted)
    (handles.holds.createScope created)
  have listed : seat.HandlesData Calm graph document palette
      { middle with mounts := middle.mounts ++
        [⟨document, scopeIdFor nodeId kind, watch, [], watch.isSome⟩] } :=
    grown.transfer rfl rfl
  simp only [ensures_bind, ensures_get, ensures_modify, Bool.false_eq_true, if_false]
  split
  · refine ((Keeps.forIn_of_mem fun symbol member => ?_).bind fun _ => keeps_pure _) _ listed
    exact (keeps_handlesData_declareIn attended _ (data symbol member)).discard
  · exact (ensures_pure _ _).mpr listed

theorem keeps_handlesData_mountOwner
    (offers : graph.OffersData palette)
    {owner : GraphNode × ScopeKind}
    (member : owner.1 ∈ graph.nodes)
    (inner : owner.2 ≠ .global) :
    Keeps (seat.HandlesData Calm graph document palette) (seat.mountOwner owner.1 owner.2) := by
  intro before handles
  unfold mountOwner
  rw [ensures_bind, ensures_current, handles.samePalette, handles.sameDocument]
  cases available : palette.get? owner.1.kind with
  | none => exact (ensures_pure _ _).mpr handles
  | some kind =>
      have data := (offers owner.1 member kind available).1
      have mounts : ∀ parent, Keeps (seat.HandlesData Calm graph document palette) (do
          note (scopeSymbolNotices kind owner.1)
          let place ← mountScope seat.tell document owner.1.id owner.2 parent
            (kind.scopeSymbols owner.1.stored) false
          seat.update fun held =>
            { held with mounts := held.mounts.insert owner.1.id place }) := fun parent =>
        (keeps_handlesData_note _).bind fun _ =>
          (keeps_handlesData_mountScope attended owner.1.id inner parent data).bind fun _ =>
            keeps_handlesData_update attended (fun _ => rfl) (fun _ => rfl) fun _ => rfl
      extract_lets wanted
      rw [ensures_bind, ensures_registry]
      extract_lets parent rest
      split
      · refine Keeps.bind ?_ (fun _ => mounts parent) before handles
        exact keeps_handlesData_update attended (fun _ => rfl) (fun _ => rfl) fun _ => rfl
      · exact mounts parent before handles

/-- The owners are mounted one after the other. -/
theorem keeps_handlesData_mountOwners
    (offers : graph.OffersData palette)
    {order : List (GraphNode × ScopeKind)}
    (owned : ∀ owner ∈ order, owner.1 ∈ graph.nodes ∧ owner.2 ≠ .global) :
    Keeps (seat.HandlesData Calm graph document palette)
      (forIn order PUnit.unit fun (owner : GraphNode × ScopeKind) _ => do
        seat.mountOwner owner.1 owner.2
        pure (ForInStep.yield PUnit.unit)) :=
  Keeps.forIn_of_mem fun owner member =>
    keeps_handlesData_mountOwner attended offers (owned owner member).1 (owned owner member).2

end Attended

/-! ## Sockets -/

namespace HandlesData

/-- An activity that changed nothing but the log. -/
theorem of_stands
    {after : Workspace η}
    (handles : seat.HandlesData Calm graph document palette before)
    (stands : seat.Stands Calm (seat.read before.rest) before.registry after) :
    seat.HandlesData Calm graph document palette after where
  calm := stands.calm
  sameGraph := stands.read ▸ handles.sameGraph
  sameDocument := stands.read ▸ handles.sameDocument
  samePalette := stands.read ▸ handles.samePalette
  reachable := stands.registry ▸ handles.reachable
  holds := stands.registry ▸ handles.holds

theorem stands (handles : seat.HandlesData Calm graph document palette before) :
    seat.Stands Calm (seat.read before.rest) before.registry before :=
  ⟨handles.calm, rfl, rfl⟩

/-- All that is visible from a node is about data. -/
theorem ensures_context
    (handles : seat.HandlesData Calm graph document palette before)
    (nodeId : String)
    (feeds : GraphFeeds) :
    (seat.context nodeId feeds).Ensures before fun context after =>
      (context.ShowsData ∧ context.feeds = feeds.getD nodeId ∅) ∧
        seat.HandlesData Calm graph document palette after := by
  refine (AnalysisSeat.ensures_context handles.stands (handles.reachable.consistent _) nodeId
    feeds).mono ?_
  rintro context after ⟨found, stands⟩
  rw [handles.sameDocument] at found
  exact ⟨⟨handles.holds.showsData found, (Registry.surrounds_of_ofRegistry found).1⟩,
    handles.of_stands stands⟩

theorem ensures_resolve
    (handles : seat.HandlesData Calm graph document palette before)
    (feeds : GraphFeeds)
    (node : GraphNode) :
    (seat.resolve feeds node).Ensures before fun entry after =>
      (∃ context : SocketContext, context.ShowsData ∧
          entry = (node.id, palette.sockets node.kind node.stored context)) ∧
        seat.HandlesData Calm graph document palette after := by
  refine (AnalysisSeat.ensures_resolve handles.stands (handles.reachable.consistent _) feeds
    node).mono ?_
  rintro entry after ⟨⟨context, found, rfl⟩, stands⟩
  rw [handles.sameDocument] at found
  rw [handles.samePalette]
  exact ⟨⟨context, handles.holds.showsData found, rfl⟩, handles.of_stands stands⟩

theorem ensures_resolveAll
    (handles : seat.HandlesData Calm graph document palette before)
    (feeds : GraphFeeds) :
    (seat.resolveAll feeds).Ensures before fun resolved after =>
      graph.ResolvedInData palette resolved ∧
        seat.HandlesData Calm graph document palette after := by
  unfold resolveAll
  rw [ensures_bind, ensures_current, handles.sameGraph, ensures_bind]
  refine (ensures_mapM _ _ handles fun node _ handles => handles.ensures_resolve feeds node).mono ?_
  rintro listed after ⟨paired, handlesStill⟩
  exact (ensures_pure _ _).mpr ⟨⟨listed, rfl, paired⟩, handlesStill⟩

theorem ensures_feedsAfter
    (handles : seat.HandlesData Calm graph document palette before)
    (feeds : GraphFeeds) :
    (seat.feedsAfter feeds).Ensures before fun answer after =>
      (∃ resolved, graph.ResolvedInData palette resolved ∧ answer = graph.feeds resolved) ∧
        seat.HandlesData Calm graph document palette after := by
  unfold feedsAfter
  rw [ensures_bind]
  refine (handles.ensures_resolveAll feeds).mono ?_
  rintro resolved after ⟨inData, handlesStill⟩
  rw [ensures_bind, ensures_current, ensures_pure, handlesStill.sameGraph]
  exact ⟨⟨resolved, inData, rfl⟩, handlesStill⟩

end HandlesData

/-! ## Declarations -/

/-- What is kept for a node is about data if what the node declares is. -/
theorem isData_boundSymbol
    (nodeId : String)
    (binding : Namespace)
    {declared : Symbol}
    (data : declared.IsData)
    (scopeId : Option String)
    (name : String) :
    (boundSymbol nodeId binding declared scopeId name).IsData := by
  unfold boundSymbol
  split
  · rename_i signature known
    have own := data.signature signature known
    have named : (Symbol.ofFunction name { signature with nodeId := some nodeId }).IsData :=
      Symbol.isData_ofFunction_iff.mpr ⟨own.parameters, own.returnType⟩
    exact named.moved scopeId _
  · have named : (Symbol.ofFunction name default).IsData :=
      Symbol.isData_ofFunction_iff.mpr (by decide)
    exact ⟨data.type, named.signature⟩
  · exact (Symbol.isData_ofVariable_iff.mpr (by decide)).moved scopeId _
  · exact (Symbol.isData_ofVariable_iff.mpr data.type).moved scopeId _

section Declarations

variable (attended : seat.Attended Calm)

include attended

theorem keeps_handlesData_sync
    (place : Nat)
    (name : Option String)
    {build : Option String → String → Symbol}
    (data : ∀ scopeId wanted, (build scopeId wanted).IsData) :
    Keeps (seat.HandlesData Calm graph document palette)
      (sync seat.tell place name fun scopeId wanted => .ok (build scopeId wanted)) :=
  Keeps.sync
    (fun space written _ _ => keeps_handlesData_declare attended space written (data _ _))
    (keeps_handlesData_remove attended) (keeps_handlesData_rename place) name

theorem keeps_handlesData_bindingOf (space : Namespace) (nodeId : String) :
    Keeps (seat.HandlesData Calm graph document palette) (seat.bindingOf space nodeId) :=
  keeps_bindingOf_of keeps_handlesData_current
    (fun _ => keeps_handlesData_modify (fun _ => rfl) fun _ => rfl)
    (fun _ => keeps_handlesData_update attended (fun _ => rfl) (fun _ => rfl) fun _ => rfl)
    space nodeId

/-- A node whose symbol is about data declares nothing else. -/
theorem keeps_handlesData_declareNode
    {space : Namespace}
    {feeds : GraphFeeds}
    (declares : graph.DeclaresData palette space feeds)
    {node : GraphNode}
    (member : node ∈ graph.nodes) :
    Keeps (seat.HandlesData Calm graph document palette) (seat.declareNode space feeds node) := by
  intro before handles
  unfold declareNode
  rw [ensures_bind, ensures_current, handles.samePalette]
  cases available : palette.get? node.kind with
  | none => exact (ensures_pure _ _).mpr handles
  | some kind =>
      dsimp only
      split
      · exact (ensures_pure _ _).mpr handles
      · rename_i inSpace
        have inSpace : kind.shape.declaration? = some space := by simpa using inSpace
        rw [ensures_bind]
        refine (handles.ensures_context node.id feeds).mono ?_
        rintro context middle ⟨⟨-, fed⟩, handles⟩
        have data := declares node member kind available inSpace context fed
        refine ((keeps_handlesData_note _).bind fun _ =>
          (keeps_handlesData_bindingOf attended space node.id).bind fun place =>
            (keeps_get.bind fun workspace => keeps_pure _).bind fun found => ?_) middle handles
        cases declared : kind.declaredSymbol node.stored context with
        | none =>
            exact (keeps_handlesData_sync attended place none fun _ name =>
              Symbol.isData_ofVariable_iff.mpr (by decide)).discard
        | some symbol =>
            exact (keeps_handlesData_sync attended place (some symbol.name) fun scopeId name =>
              isData_boundSymbol node.id _ (data symbol declared) scopeId name).discard

theorem keeps_handlesData_declareAll
    {space : Namespace}
    {feeds : GraphFeeds}
    (declares : graph.DeclaresData palette space feeds) :
    Keeps (seat.HandlesData Calm graph document palette) (seat.declareAll space feeds) := by
  intro before handles
  unfold declareAll
  rw [ensures_bind, ensures_current, handles.sameGraph]
  exact ((Keeps.forIn_of_mem fun node member =>
    keeps_handlesData_declareNode attended declares member).bind fun _ => keeps_pure ())
      before handles

end Declarations

/-! ## Analysing -/

/-- An analysis has found only data: all symbols of its document are about data, and the nodes that
read variables or call functions keep execution order apart from it.  Of nodes with one identifier
the report shows the sockets of the last, so this is for nodes whose identifier no node of another
kind has. -/
structure FoundData
    (graph : Graph)
    (document : String)
    (palette : Palette)
    (report : GraphReport)
    (registry : Registry) :
    Prop where
  holds : registry.HoldsData document
  apart : ∀ shown ∈ report.nodes, palette.takesSocketsFromNames shown.kind = true →
    (∀ other ∈ graph.nodes, other.id = shown.nodeId → other.kind = shown.kind) →
    shown.sockets.KeepsFlowApart

/-- Once the scopes are assigned, an analysis finds only data. -/
theorem HandlesData.ensures_replay
    (attended : seat.Attended Calm)
    (handles : seat.HandlesData Calm graph document palette before)
    (offers : graph.OffersData palette)
    {order : List (GraphNode × ScopeKind)}
    (owned : ∀ owner ∈ order, owner.1 ∈ graph.nodes ∧ owner.2 ≠ .global) :
    (seat.replay order).Ensures before fun report after =>
      FoundData graph document palette report after.registry := by
  unfold replay
  rw [ensures_bind]
  refine (keeps_handlesData_mountOwners attended offers owned before handles).mono ?_
  intro _ _ handles
  rw [ensures_bind]
  refine (keeps_handlesData_declareAll attended (offers.functions ∅) _ handles).mono ?_
  intro _ _ handles
  rw [ensures_bind]
  refine (handles.ensures_feedsAfter ∅).mono ?_
  rintro _ _ ⟨⟨early, inData, rfl⟩, handles⟩
  rw [ensures_bind]
  refine (keeps_handlesData_declareAll attended (offers.vars inData) _ handles).mono ?_
  intro _ _ handles
  rw [ensures_bind]
  refine (handles.ensures_feedsAfter ∅).mono ?_
  rintro feeds _ ⟨-, handles⟩
  rw [ensures_bind]
  refine (handles.ensures_resolveAll feeds).mono ?_
  rintro resolved last ⟨inData, handles⟩
  have read := attended.read_write last.rest
    { seat.read last.rest with sockets := resolved, analyzed := true } handles.calm
  simp only [ensures_bind, ensures_update, report, ensures_current, ensures_registry, ensures_pure,
    ensures_note]
  refine ⟨handles.holds, ?_⟩
  dsimp only
  rw [read, handles.sameGraph, List.forall_mem_map]
  exact fun node _ takes alone => inData.keepsFlowApart takes alone

/-- An analysis of a graph that offers nothing but data, in a document that holds nothing else,
finds only data. -/
theorem Attended.analyze_foundData
    (attended : seat.Attended Calm)
    (calm : Calm before.rest)
    {analysis : Analysis}
    (held : seat.read before.rest = analysis)
    (inner : analysis.palette.Inner)
    (reachable : before.registry.Reachable)
    (holds : before.registry.HoldsData analysis.document)
    (offers : analysis.graph.OffersData analysis.palette) :
    seat.analyze.Ensures before fun report after =>
      FoundData analysis.graph analysis.document analysis.palette report after.registry := by
  have anew : ∀ before : Workspace η, seat.HandlesData Calm analysis.graph analysis.document
      analysis.palette before → seat.anew.Ensures before fun report after =>
        FoundData analysis.graph analysis.document analysis.palette report after.registry := by
    intro before handles
    unfold AnalysisSeat.anew
    rw [ensures_bind]
    refine (keeps_handlesData_assign attended before handles).mono fun _ _ handles => ?_
    rw [ensures_bind, ensures_current, handles.samePalette, handles.sameGraph]
    refine handles.ensures_replay attended offers fun owner member => ?_
    have among := (Graph.mem_outermostFirst owner).mp member
    exact ⟨((Graph.mem_owners_iff owner).mp among).1, (inner.owned among).2⟩
  have handles : seat.HandlesData Calm analysis.graph analysis.document analysis.palette before :=
    ⟨calm, congrArg Analysis.graph held, congrArg Analysis.document held,
      congrArg Analysis.palette held, reachable, holds⟩
  cases begun : (seat.read before.rest).analyzed with
  | true =>
      rw [ensures_congr (outcome_analyze_again begun), ensures_bind]
      exact (keeps_handlesData_close attended before handles).mono fun _ after => anew after
  | false =>
      rw [ensures_congr (outcome_analyze begun)]
      exact anew before handles

/-- A variable is fed by the end of a statement and then by a number, is read inside a function
that takes a text, and is given to a call of that function. -/
def overfed : Graph where
  nodes :=
    [⟨"start", "Start", []⟩,
     ⟨"num", "Number", []⟩,
     ⟨"set", "VariableSet", [("variableName", .text "x")]⟩,
     ⟨"def", "FunctionDefinition", [("functionName", .text "f"), ("returnType", .text "string"),
       ("parameters", .list [.object [("name", .text "s"), ("type", .text "string")]])]⟩,
     ⟨"get", "VariableGet", [("variableName", .text "x")]⟩,
     ⟨"call", "FunctionCall", [("functionName", .text "f")]⟩]
  edges :=
    [⟨"e1", "start", "set", some "output", some "prev", []⟩,
     ⟨"e2", "start", "set", some "output", some "value", []⟩,
     ⟨"e3", "num", "set", none, some "value", []⟩,
     ⟨"e4", "set", "call", some "next", some "prev", []⟩,
     ⟨"e5", "get", "call", none, some "param-0", []⟩]

theorem analyze_foundData_overfed :
    Palette.standard.Inner ∧ (∅ : Registry).Reachable ∧ (∅ : Registry).HoldsData "graph" ∧
      overfed.OffersData .standard ∧
      alone.analyze.Ensures (Workspace.fresh (.prepare overfed "graph" .standard))
        fun report after => FoundData overfed "graph" .standard report after.registry := by
  have reachable : (∅ : Registry).Reachable := ⟨[], .start⟩
  have bare : (∅ : Registry).Bare "graph" := ⟨fun space => by cases space <;> rfl, rfl⟩
  have offers : overfed.OffersData .standard := by decide +kernel
  exact ⟨Palette.inner_standard, reachable, bare.holdsData, offers,
    attended_alone.analyze_foundData trivial rfl Palette.inner_standard reachable bare.holdsData
      offers⟩

/-! ### Execution order as data -/

/-- A variable is fed by the start of the script, and read. -/
def misfed : Graph where
  nodes :=
    [⟨"start", "Start", []⟩,
     ⟨"set", "VariableSet", [("variableName", .text "x")]⟩,
     ⟨"get", "VariableGet", [("variableName", .text "x")]⟩]
  edges := [⟨"e1", "start", "set", some "output", some "value", []⟩]

/-- The edge is not allowed, and still the variable has its type and gives it to its readers. -/
theorem alone_analyze_misfed :
    Graph.ofJson Graph.memoryPath (.object
        [("nodes", .list
          [.object [("id", .text "start"), ("type", .text "Start")],
           .object [("id", .text "set"), ("type", .text "VariableSet"),
             ("data", .object [("variableName", .text "x")])],
           .object [("id", .text "get"), ("type", .text "VariableGet"),
             ("data", .object [("variableName", .text "x")])]]),
         ("edges", .list
          [.object [("id", .text "e1"), ("source", .text "start"), ("target", .text "set"),
            ("sourceHandle", .text "output"), ("targetHandle", .text "value")]])]) =
        .ok misfed ∧
      (∅ : Registry).Reachable ∧ (∅ : Registry).Bare "graph" ∧
      alone.analyze.Ensures (Workspace.fresh (.prepare misfed "graph" .standard)) fun _ after =>
        let final := (alone.read after.rest).sockets
        (misfed.edgeIssues final).map (fun issue => issue.edge.id) = ["e1"] ∧
          ((after.registry.table .vars).lookup? "graph" ⟨none, "x"⟩).map Symbol.type =
            some .flow ∧
          (final.get? "get").map (fun node => node.outputs.map Socket.type) = some [.flow] := by
  have ordered : Graph.outermostFirst (Graph.owners .standard misfed)
      (Graph.assignScopes .standard misfed ∅) = Graph.owners .standard misfed :=
    List.mergeSort_of_pairwise (by decide +kernel)
  refine ⟨rfl, ⟨[], .start⟩, ⟨fun space => by cases space <;> rfl, rfl⟩,
    ensures_of_isOk ?_ ?_⟩ <;>
    (rw [outcome_analyze_prepare, ordered]; decide +kernel)

end LuauNodes.AnalysisSeat
