import LuauNodes.Artifact
import LuauNodes.Graph.Wiring

/-!
# Reports

What an analysis says about a graph: where every node sits and how usable it is,
which edges are not allowed, and the scopes of the document.
-/

namespace LuauNodes

/-- What an analysis says about a node. -/
structure NodeReport where
  nodeId : String
  kind : String
  scopeId : Option String
  sockets : NodeSockets

/-- What an analysis says about a graph. -/
structure GraphReport where
  document : String
  nodes : List NodeReport
  issues : List EdgeIssue
  scopes : List Scope

namespace GraphReport

/-- The report of the first node with an identifier. -/
def node? (report : GraphReport) (nodeId : String) : Option NodeReport :=
  report.nodes.find? fun node => node.nodeId == nodeId

/-- The reports of the nodes with a status. -/
def withStatus (report : GraphReport) (status : NodeStatus) : List NodeReport :=
  report.nodes.filter fun node => node.sockets.status == status

end GraphReport

/-! ## As JSON -/

/-- An edge that is not allowed, as JSON. -/
def EdgeIssue.toJson (issue : EdgeIssue) : Json :=
  .object
    [("edge_id", .text issue.edge.id), ("source", .text issue.edge.source),
     ("target", .text issue.edge.target), ("reason", .text issue.problem.code),
     ("message", .text issue.problem.message)]

/-- The report of a node as JSON, with each socket written by the given function. -/
def NodeReport.toJsonWith (socket : Socket → List (String × Json))
    (report : NodeReport) : Json :=
  .object
    [("node_id", .text report.nodeId), ("kind", .text report.kind),
     ("scope_id", .ofText? report.scopeId), ("sockets", report.sockets.toJsonWith socket)]

/-- A report as JSON, with each socket written by the given function. -/
def GraphReport.toJsonWith (socket : Socket → List (String × Json)) (report : GraphReport) :
    Json :=
  .object
    [("document", .text report.document),
     ("nodes", .list (report.nodes.map (NodeReport.toJsonWith socket))),
     ("invalid_edges", .list (report.issues.map EdgeIssue.toJson)),
     ("scopes", .list (report.scopes.map Scope.toJson))]

/-- A report as JSON. -/
def GraphReport.toJson (report : GraphReport) : Json := report.toJsonWith Socket.toFields

end LuauNodes
