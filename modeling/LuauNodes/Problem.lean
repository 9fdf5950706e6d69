import LuauNodes.Expression.Fault
import LuauNodes.LuauType

/-!
# Problems

Everything that can be wrong with a node, a connection or a saved graph.  A
problem is its cause; its code and its wording are functions of it.
-/

namespace LuauNodes

/-- What is wrong with a node, a connection or a graph. -/
inductive Problem where
  | unknownNodeKind (kind : String)
  | invalidConfiguration (kind details : String)
  | functionNotFound (name : String)
  | variableNotFound (name : String)
  | undefinedIdentifier (name : String)
  | invalidIdentifier (name : String)
  | reservedIdentifier (name : String)
  | expression (fault : Expression.Fault)
  | unknownSourceSocket (node : String) (handle : Option String)
  | unknownTargetSocket (node : String) (handle : Option String)
  | typeMismatch (source target : LuauType)
  | unknownEdgeEndpoint (edge node : String)
  | graphFileNotFound (path : String)
  | graphInvalidJson (path details : String)
  | graphSchemaMismatch (path details : String)
  | graphNodeNotFound (node : String)
  deriving DecidableEq

namespace Problem

/-- A socket handle in a message; a missing one has a word of its own. -/
def handleText (handle : Option String) : String := handle.getD "None"

/-- The code of a problem. -/
def code : Problem → String
  | unknownNodeKind _ => "UNKNOWN_NODE_KIND"
  | invalidConfiguration _ _ => "INVALID_CONFIGURATION"
  | functionNotFound _ => "FUNCTION_NOT_FOUND"
  | variableNotFound _ => "VARIABLE_NOT_FOUND"
  | undefinedIdentifier _ => "UNDEFINED_IDENTIFIER"
  | invalidIdentifier _ => "INVALID_IDENTIFIER"
  | reservedIdentifier _ => "RESERVED_KEYWORD_AS_IDENTIFIER"
  | expression fault => fault.code
  | unknownSourceSocket _ _ => "UNKNOWN_SOURCE_SOCKET"
  | unknownTargetSocket _ _ => "UNKNOWN_TARGET_SOCKET"
  | typeMismatch _ _ => "TYPE_MISMATCH"
  | unknownEdgeEndpoint _ _ => "UNKNOWN_EDGE_ENDPOINT"
  | graphFileNotFound _ => "GRAPH_FILE_NOT_FOUND"
  | graphInvalidJson _ _ => "GRAPH_INVALID_JSON"
  | graphSchemaMismatch _ _ => "GRAPH_SCHEMA_MISMATCH"
  | graphNodeNotFound _ => "GRAPH_NODE_NOT_FOUND"

/-- The wording of a problem. -/
def message : Problem → String
  | unknownNodeKind kind => s!"Unknown node kind '{kind}'."
  | invalidConfiguration kind details => s!"Invalid configuration for '{kind}': {details}"
  | functionNotFound name => s!"Function '{name}' was deleted or does not exist."
  | variableNotFound name => s!"Variable '{name}' is not declared in this scope."
  | undefinedIdentifier name => s!"Identifier '{name}' is not visible from this node."
  | invalidIdentifier name => s!"'{name}' is not a valid identifier name."
  | reservedIdentifier name => s!"Cannot use reserved keyword '{name}' as a name."
  | expression fault => fault.message
  | unknownSourceSocket node handle =>
    s!"Node '{node}' has no output socket '{handleText handle}'."
  | unknownTargetSocket node handle =>
    s!"Node '{node}' has no input socket '{handleText handle}'."
  | typeMismatch source target =>
    s!"Cannot connect a '{source.tag}' output to a '{target.tag}' input."
  | unknownEdgeEndpoint edge node => s!"Edge '{edge}' references missing node '{node}'."
  | graphFileNotFound path => s!"Graph file not found: '{path}'"
  | graphInvalidJson path details => s!"Graph file '{path}' is not valid JSON: {details}"
  | graphSchemaMismatch path details =>
    s!"Graph file '{path}' does not match the editor graph format: {details}"
  | graphNodeNotFound node => s!"Node '{node}' does not exist in the graph."

end Problem

end LuauNodes
