import LuauNodes.Problem
import LuauNodes.Record.Reader

/-!
# Saved graphs

A graph as the editor saves it: nodes with their stored data, and edges between
the sockets of nodes.  Nothing in a saved graph is checked beyond its form; node
identifiers may repeat, and edges may lead nowhere.
-/

namespace LuauNodes

open LuauNodes.Record

/-- A node of a saved graph. -/
structure GraphNode where
  id : String
  kind : String
  data : Fields
  deriving Inhabited

/-- An edge of a saved graph. -/
structure GraphEdge where
  id : String
  source : String
  target : String
  sourceHandle : Option String
  targetHandle : Option String
  data : Fields
  deriving Inhabited

/-- A saved graph. -/
structure Graph where
  nodes : List GraphNode
  edges : List GraphEdge
  deriving Inhabited

/-- The type that a stored value names; what is no text names the wildcard. -/
def LuauType.ofJson : Json → LuauType
  | .text name => .ofText name
  | _ => .any

/-- The stored data of a node as one value. -/
def GraphNode.stored (node : GraphNode) : Json := .object node.data

/-- The type that was noted on an edge when it was drawn. -/
def GraphEdge.notedType? (edge : GraphEdge) : Option LuauType :=
  match Json.entry? "sourceType" edge.data with
  | some noted => if noted.isTruthy then some (.ofJson noted) else none
  | none => none

namespace Graph

/-- The first node with an identifier. -/
def node? (graph : Graph) (id : String) : Option GraphNode :=
  graph.nodes.find? fun node => node.id == id

/-- The edges that leave a node, in their order. -/
def outgoing (graph : Graph) (id : String) : List GraphEdge :=
  graph.edges.filter fun edge => edge.source == id

end Graph

/-! ## Reading -/

/-- Reads a node. -/
def GraphNode.read : Reader GraphNode :=
  record "GraphNode" fun fields =>
    GraphNode.mk
      <$> required (.same "id") text fields
      <*> required (.same "type") text fields
      <*> optional (.same "data") [] dictionary fields

/-- Reads an edge. -/
def GraphEdge.read : Reader GraphEdge :=
  record "GraphEdge" fun fields =>
    GraphEdge.mk
      <$> required (.same "id") text fields
      <*> required (.same "source") text fields
      <*> required (.same "target") text fields
      <*> optional (.camel "source_handle") none (nullable text) fields
      <*> optional (.camel "target_handle") none (nullable text) fields
      <*> optional (.same "data") [] dictionary fields

/-- Reads the nodes and edges of a graph. -/
def Graph.readFields (fields : Fields) : Checked Graph :=
  Graph.mk
    <$> optional (.same "nodes") [] (list GraphNode.read) fields
    <*> optional (.same "edges") [] (list GraphEdge.read) fields

/-- What a graph is called that does not come from a file. -/
def Graph.memoryPath : String := "<memory>"

/-- Reads a graph that was found under a path. -/
def Graph.ofJson (path : String) : Json → Except Problem Graph
  | .object fields =>
    match Graph.readFields fields with
    | .ok graph => .ok graph
    | .bad faults => .error (.graphSchemaMismatch path (faultsMessage faults))
  | _ =>
    .error (.graphSchemaMismatch path
      "the top level must be an object with 'nodes' and 'edges'")

end LuauNodes
