import LuauNodes.Json.Basic
import LuauNodes.Registry.Event
import LuauNodes.Scope

/-!
# Notices

What is written to the log.  Refused requests and failing listeners are
warnings and errors; the other notices trace what was done.
-/

namespace LuauNodes

/-- How important a notice is. -/
inductive Level where
  | debug
  | info
  | warning
  | error
  deriving DecidableEq, Inhabited

namespace Level

/-- The written form of a level. -/
def tag : Level → String
  | debug => "debug"
  | info => "info"
  | warning => "warning"
  | error => "error"

/-- The rank of a level. -/
def rank : Level → Nat
  | debug => 10
  | info => 20
  | warning => 30
  | error => 40

/-- The large form of a letter in the name of a level; a small i may lack its dot. -/
def largeLetter (c : Char) : Char := if c == 'ı' then 'I' else c.toUpper

/-- The level that a text names, case aside; any other text names the warnings. -/
def ofText (text : String) : Level :=
  match String.ofList (text.toList.map largeLetter) with
  | "DEBUG" => debug
  | "INFO" => info
  | "ERROR" => error
  | _ => warning

end Level

/-- Something worth a line in the log. -/
inductive Notice where
  | symbolDeclared (space : Namespace) (document : String) (symbol : Symbol) (replaced : Bool)
  | symbolUpdated (space : Namespace) (document name : String) (fields : List String)
  | symbolUpdateRejected (space : Namespace) (document name : String) (scopeId : Option String)
    (faults : Nat)
  | symbolRemoved (space : Namespace) (document name : String) (scopeId : Option String)
  | declareIntoMissingScope (space : Namespace) (document name scopeId : String)
  | scopeParentMissing (document scopeId parentId : String)
  | scopeCycleRejected (document scopeId parentId : String)
  | scopeCreated (document : String) (scope : Scope)
  | scopeReparented (document : String) (scopeId : String) (parentId : Option String)
  | scopeDestroyed (document scopeId : String) (removed : List String)
  | scopeUnmounted (document scopeId : String)
  | enterUnknownScope (document : String) (scopeId : Option String)
  | listenerFailed (event : Event)
  | nodeConfigInvalid (kind details : String)
  | graphAnalyzed (document : String) (nodes invalidEdges scopes : Nat)

namespace Notice

/-- How important a notice is. -/
def level : Notice → Level
  | symbolUpdateRejected _ _ _ _ _ => .warning
  | declareIntoMissingScope _ _ _ _ => .warning
  | scopeParentMissing _ _ _ => .warning
  | scopeCycleRejected _ _ _ => .warning
  | enterUnknownScope _ _ => .warning
  | listenerFailed _ => .error
  | _ => .debug

/-- The name under which a notice is logged. -/
def event : Notice → String
  | symbolDeclared _ _ _ _ => "symbol_declared"
  | symbolUpdated _ _ _ _ => "symbol_updated"
  | symbolUpdateRejected _ _ _ _ _ => "symbol_update_rejected"
  | symbolRemoved _ _ _ _ => "symbol_removed"
  | declareIntoMissingScope _ _ _ _ => "declare_into_missing_scope"
  | scopeParentMissing _ _ _ => "scope_parent_missing"
  | scopeCycleRejected _ _ _ => "scope_cycle_rejected"
  | scopeCreated _ _ => "scope_created"
  | scopeReparented _ _ _ => "scope_reparented"
  | scopeDestroyed _ _ _ => "scope_destroyed"
  | scopeUnmounted _ _ => "scope_unmounted"
  | enterUnknownScope _ _ => "enter_unknown_scope"
  | listenerFailed _ => "listener_failed"
  | nodeConfigInvalid _ _ => "node_config_invalid"
  | graphAnalyzed _ _ _ _ => "graph_analyzed"

/-- A natural number as a JSON value. -/
def count (value : Nat) : Json := .int (value : Nat)

/-- The details of a notice. -/
def fields : Notice → List (String × Json)
  | symbolDeclared space document symbol replaced =>
    [("namespace", .text space.tag), ("document", .text document), ("name", .text symbol.name),
     ("scope_id", .ofText? symbol.scopeId), ("type", .text symbol.type.tag),
     ("replaced", .bool replaced)]
  | symbolUpdated space document name fields =>
    [("namespace", .text space.tag), ("document", .text document), ("name", .text name),
     ("fields", .ofTexts fields)]
  | symbolUpdateRejected space document name scopeId faults =>
    [("namespace", .text space.tag), ("document", .text document), ("name", .text name),
     ("scope_id", .ofText? scopeId), ("errors", count faults)]
  | symbolRemoved space document name scopeId =>
    [("namespace", .text space.tag), ("document", .text document), ("name", .text name),
     ("scope_id", .ofText? scopeId)]
  | declareIntoMissingScope space document name scopeId =>
    [("namespace", .text space.tag), ("document", .text document), ("name", .text name),
     ("scope_id", .text scopeId)]
  | scopeParentMissing document scopeId parentId =>
    [("document", .text document), ("scope_id", .text scopeId),
     ("parent_scope_id", .text parentId)]
  | scopeCycleRejected document scopeId parentId =>
    [("document", .text document), ("scope_id", .text scopeId),
     ("parent_scope_id", .text parentId)]
  | scopeCreated document scope =>
    [("document", .text document), ("scope_id", .text scope.id),
     ("scope_type", .text scope.kind.tag), ("parent_scope_id", .ofText? scope.parentId)]
  | scopeReparented document scopeId parentId =>
    [("document", .text document), ("scope_id", .text scopeId),
     ("parent_scope_id", .ofText? parentId)]
  | scopeDestroyed document scopeId removed =>
    [("document", .text document), ("scope_id", .text scopeId), ("removed", .ofTexts removed)]
  | scopeUnmounted document scopeId =>
    [("document", .text document), ("scope_id", .text scopeId)]
  | enterUnknownScope document scopeId =>
    [("document", .text document), ("scope_id", .ofText? scopeId)]
  | listenerFailed event =>
    [("document", .text event.document), ("kind", .text event.kind.tag),
     ("name", .ofText? event.name)]
  | nodeConfigInvalid kind details => [("kind", .text kind), ("details", .text details)]
  | graphAnalyzed document nodes invalidEdges scopes =>
    [("document", .text document), ("nodes", count nodes),
     ("invalid_edges", count invalidEdges), ("scopes", count scopes)]

end Notice

end LuauNodes
