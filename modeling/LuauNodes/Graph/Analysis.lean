import LuauNodes.Completion
import LuauNodes.Graph.Membership
import LuauNodes.Graph.Report
import LuauNodes.Workspace.Binding
import LuauNodes.Workspace.Mount

/-!
# Analyses

An analysis replays a saved graph in a workspace: it mounts the scope of every
owner, keeps the declaration of every declaring node in a binding, and resolves
the sockets of every node where the node sits.  Functions are declared first,
then variables with the types that feed them.  Closing an analysis gives back
everything that it mounted and declared.
-/

namespace LuauNodes

/-- The state of an analysis.  Mounts and bindings are held by their places in the workspace. -/
structure Analysis where
  graph : Graph
  document : String
  palette : Palette
  members : Membership
  mounts : OrderedMap String Nat
  declarations : OrderedMap String Nat
  sockets : ResolvedNodes
  analyzed : Bool
  deriving Inhabited

/-- The document of a graph that is analysed on its own. -/
def Analysis.defaultDocument : String := "graph"

/-- An analysis that has not begun. -/
def Analysis.prepare (graph : Graph) (document : String) (palette : Palette) : Analysis :=
  ⟨graph, document, palette, ∅, ∅, ∅, ∅, false⟩

/-- Where an analysis is kept, and who is told of events. -/
structure AnalysisSeat (η : Type) where
  tell : Event → Act η Unit
  read : η → Analysis
  write : Analysis → η → η

/-- An analysis that is kept alone, with nobody to tell. -/
def AnalysisSeat.alone : AnalysisSeat Analysis :=
  ⟨fun _ => pure (), id, fun analysis _ => analysis⟩

namespace AnalysisSeat

variable {η : Type} (seat : AnalysisSeat η)

/-- The analysis as it is now. -/
def current : Act η Analysis := return seat.read (← Act.rest)

/-- Changes the analysis. -/
def update (f : Analysis → Analysis) : Act η Unit :=
  Act.modifyRest fun rest => seat.write (f (seat.read rest)) rest

/-! ## Scopes -/

/-- Assigns a scope to every node. -/
def assign : Act η Unit := do
  let analysis ← seat.current
  seat.update fun held =>
    { held with members := Graph.assignScopes held.palette held.graph held.members }
  Act.note (analysis.graph.nodes.flatMap fun node =>
    analysis.palette.socketNotices node.kind node.stored)

/-- The notices of asking a node for the symbols in its scope. -/
def scopeSymbolNotices (kind : NodeKind) (node : GraphNode) : List Notice :=
  if kind.shape.hasScopeSymbols then kind.configNotices node.stored else []

/-- Mounts the scope of an owner.  Where the scope around it is not stored, it is mounted in the
global scope. -/
def mountOwner (owner : GraphNode) (scopeKind : ScopeKind) : Act η Unit := do
  let analysis ← seat.current
  let some kind := analysis.palette.get? owner.kind | return
  let wanted := analysis.members.scopeOf owner.id
  let parent :=
    if (← Act.registry).scopes.has analysis.document wanted then wanted else none
  if parent.isNone && wanted.isSome then
    seat.update fun held => { held with members := held.members.insert owner.id none }
  Act.note (scopeSymbolNotices kind owner)
  let place ← Act.mountScope seat.tell analysis.document owner.id scopeKind parent
    (kind.scopeSymbols owner.stored) false
  seat.update fun held => { held with mounts := held.mounts.insert owner.id place }

/-! ## Sockets -/

/-- The surroundings of a node. -/
def context (nodeId : String) (feeds : GraphFeeds) : Act η SocketContext := do
  let analysis ← seat.current
  Act.ofTree (SocketContext.ofRegistry (← Act.registry) analysis.document
    (analysis.members.scopeOf nodeId) (feeds.getD nodeId ∅))

/-- The sockets of a node where it sits. -/
def resolve (feeds : GraphFeeds) (node : GraphNode) : Act η (String × NodeSockets) := do
  let context ← seat.context node.id feeds
  let palette := (← seat.current).palette
  Act.note (palette.socketNotices node.kind node.stored)
  return (node.id, palette.sockets node.kind node.stored context)

/-- The sockets of every node; of several nodes with one identifier the last counts. -/
def resolveAll (feeds : GraphFeeds) : Act η ResolvedNodes := do
  return .ofList (← (← seat.current).graph.nodes.mapM (seat.resolve feeds))

/-- What feeds the inputs once the sockets are resolved with some other feeds. -/
def feedsAfter (feeds : GraphFeeds) : Act η GraphFeeds := do
  let resolved ← seat.resolveAll feeds
  return (← seat.current).graph.feeds resolved

/-! ## Declarations -/

/-- The symbol that a binding keeps for a node that declares the given one. -/
def boundSymbol (nodeId : String) (binding : Namespace) (declared : Symbol)
    (scopeId : Option String) (name : String) : Symbol :=
  match binding, declared.signature with
  | .functions, some signature =>
    { Symbol.ofFunction name { signature with nodeId := some nodeId } with scopeId := scopeId }
  | .functions, none =>
    { Symbol.ofFunction name default with type := declared.type, scopeId := scopeId }
  | .vars, some _ => { Symbol.ofVariable name .any with scopeId := scopeId }
  | .vars, none => { Symbol.ofVariable name declared.type with scopeId := scopeId }

/-- The binding of a node, made where there is none yet. -/
def bindingOf (space : Namespace) (nodeId : String) : Act η Nat := do
  let analysis ← seat.current
  match analysis.declarations.get? nodeId with
  | some place => return place
  | none =>
    let place ← Act.addBinding space analysis.document (analysis.members.scopeOf nodeId)
    seat.update fun held => { held with declarations := held.declarations.insert nodeId place }
    return place

/-- Brings the declaration of a node in step with its configuration. -/
def declareNode (space : Namespace) (feeds : GraphFeeds) (node : GraphNode) :
    Act η Unit := do
  let some kind := (← seat.current).palette.get? node.kind | return
  if kind.shape.declaration? != some space then return
  let context ← seat.context node.id feeds
  Act.note (kind.configNotices node.stored)
  let declared := kind.declaredSymbol node.stored context
  let place ← seat.bindingOf space node.id
  let bound := ((← Act.binding? place).map Binding.space).getD space
  match declared with
  | none => discard (Act.sync seat.tell place none fun _ name => .ok (.ofVariable name .any))
  | some symbol =>
    discard (Act.sync seat.tell place (some symbol.name) fun scopeId name =>
      .ok (boundSymbol node.id bound symbol scopeId name))

/-- Brings the declarations of all nodes in step with their configurations. -/
def declareAll (space : Namespace) (feeds : GraphFeeds) : Act η Unit := do
  for node in (← seat.current).graph.nodes do
    seat.declareNode space feeds node

/-! ## Analysing and closing -/

/-- Gives back every declaration and every scope, the last mounted first. -/
def close : Act η Unit := do
  for place in (← seat.current).declarations.values do
    Act.release seat.tell place
  seat.update fun held => { held with declarations := ∅ }
  for place in (← seat.current).mounts.values.reverse do
    Act.unmount seat.tell place
  seat.update fun held =>
    { held with mounts := ∅, members := ∅, sockets := ∅, analyzed := false }

/-- The report of an analysis whose sockets are resolved. -/
def report : Act η GraphReport := do
  let analysis ← seat.current
  let nodes := analysis.graph.nodes.map fun node =>
    ⟨node.id, node.kind, analysis.members.scopeOf node.id,
      analysis.sockets.getD node.id (.sound [] [])⟩
  return ⟨analysis.document, nodes, analysis.graph.edgeIssues analysis.sockets,
    (← Act.registry).scopes.list analysis.document⟩

/-- The notice of a finished analysis. -/
def finishedNotice (report : GraphReport) : Notice :=
  .graphAnalyzed report.document report.nodes.length report.issues.length report.scopes.length

/-- Analyses the graph anew. -/
def analyze : Act η GraphReport := do
  if (← seat.current).analyzed then seat.close
  seat.assign
  let assigned ← seat.current
  let owners := Graph.owners assigned.palette assigned.graph
  for (owner, kind) in Graph.outermostFirst owners assigned.members do
    seat.mountOwner owner kind
  seat.declareAll .functions ∅
  seat.declareAll .vars (← seat.feedsAfter ∅)
  let resolved ← seat.resolveAll (← seat.feedsAfter ∅)
  seat.update fun held => { held with sockets := resolved, analyzed := true }
  let report ← seat.report
  Act.note [finishedNotice report]
  return report

/-! ## Questions about nodes -/

/-- Makes sure that a node exists and that the graph is analysed. -/
def requireNode (nodeId : String) : Act η Unit := do
  let analysis ← seat.current
  if (analysis.graph.node? nodeId).isNone then Act.fail (.problem (.graphNodeNotFound nodeId))
  if !analysis.analyzed then discard seat.analyze

/-- The symbols of a namespace that are visible from a node. -/
def visibleFrom (space : Namespace) (nodeId : String) : Act η (List Symbol) := do
  let analysis ← seat.current
  Act.ofTree ((← Act.registry).visible space analysis.document
    (analysis.members.scopeOf nodeId))

/-- The variables and the functions that are visible from a node. -/
def visible (nodeId : String) : Act η (List Symbol × List Symbol) := do
  seat.requireNode nodeId
  return (← seat.visibleFrom .vars nodeId, ← seat.visibleFrom .functions nodeId)

/-- The symbols that complete a fragment at a node. -/
def complete
    (nodeId fragment : String)
    (filter : Option Completion.TypeFilter)
    (source : Completion.Source) :
    Act η (List Symbol) := do
  seat.requireNode nodeId
  let analysis ← seat.current
  Act.ofTree (Completion.suggest (← Act.registry) analysis.document
    (analysis.members.scopeOf nodeId) fragment filter source)

end AnalysisSeat

/-- Carries out an activity on an analysis in a workspace of its own. -/
def Analysis.run {α : Type} (analysis : Analysis) (activity : Act Analysis α) :
    Except Failure α × Workspace Analysis :=
  Id.run ((ExceptT.run activity).run (Workspace.fresh analysis))

end LuauNodes
