import LuauNodes.Graph.Basic
import LuauNodes.Node.Palette

/-!
# Wiring

What the edges of a graph say once the sockets of its nodes are known: which
type feeds which input, and which edges are not allowed.  An edge without a
handle attaches to the only socket on its side.
-/

namespace LuauNodes

/-- The sockets of the nodes of a graph. -/
abbrev ResolvedNodes := OrderedMap String NodeSockets

/-- The types that feed the inputs of the nodes of a graph. -/
abbrev GraphFeeds := OrderedMap String Feeds

/-- Why an edge is not allowed. -/
structure EdgeIssue where
  edge : GraphEdge
  problem : Problem

/-- The handle of an edge among some sockets. -/
def handleAmong (handle : Option String) (sockets : List Socket) : Option String :=
  match handle, sockets with
  | none, [only] => some only.id
  | _, _ => handle

namespace Graph

/-- The type that comes out of the source of an edge: that of its socket, else the one that was
noted on the edge. -/
def sourceType? (resolved : ResolvedNodes) (edge : GraphEdge) : Option LuauType :=
  let socket := (resolved.get? edge.source).bind fun source =>
    source.output? ((handleAmong edge.sourceHandle source.outputs).getD "")
  match socket with
  | some output => some output.type
  | none => edge.notedType?

/-- The input that an edge feeds. -/
def targetHandle? (resolved : ResolvedNodes) (edge : GraphEdge) : Option String :=
  (resolved.get? edge.target).bind fun target =>
    (handleAmong edge.targetHandle target.inputs).filter fun handle => !handle.isEmpty

/-- What feeds the inputs when one more edge is counted. -/
def feed (resolved : ResolvedNodes) (feeds : GraphFeeds) (edge : GraphEdge) :
    GraphFeeds :=
  match sourceType? resolved edge, targetHandle? resolved edge with
  | some type, some handle =>
    feeds.insert edge.target ((feeds.getD edge.target ∅).insert handle type)
  | _, _ => feeds

/-- The types that feed the inputs of all nodes; of several edges into one input the last
counts. -/
def feeds (graph : Graph) (resolved : ResolvedNodes) : GraphFeeds :=
  graph.edges.foldl (feed resolved) ∅

/-- What is wrong with an edge. -/
def edgeProblem? (resolved : ResolvedNodes) (edge : GraphEdge) : Option Problem :=
  match resolved.get? edge.source, resolved.get? edge.target with
  | none, _ => some (.unknownEdgeEndpoint edge.id edge.source)
  | _, none => some (.unknownEdgeEndpoint edge.id edge.target)
  | some source, some target =>
    (checkConnection
      source (some ((handleAmong edge.sourceHandle source.outputs).getD ""))
      target (some ((handleAmong edge.targetHandle target.inputs).getD ""))
      edge.source edge.target).problem

/-- The edges that are not allowed. -/
def edgeIssues (graph : Graph) (resolved : ResolvedNodes) : List EdgeIssue :=
  graph.edges.filterMap fun edge =>
    (edgeProblem? resolved edge).map fun problem => ⟨edge, problem⟩

end Graph

end LuauNodes
