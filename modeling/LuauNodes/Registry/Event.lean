/-!
# Events

What listeners are told: which document changed and how, and the name and scope
that the change concerns, where it concerns one.
-/

namespace LuauNodes

/-- The two kinds of symbols are kept apart: each has names of its own. -/
inductive Namespace where
  | vars
  | functions
  deriving DecidableEq, Inhabited

/-- The written form of a namespace. -/
def Namespace.tag : Namespace → String
  | vars => "variables"
  | functions => "functions"

/-- The namespace that a text names; every text but one names the variables. -/
def Namespace.ofText (text : String) : Namespace :=
  if text == "functions" then functions else vars

/-- How a document changed. -/
inductive EventKind where
  | variablesChanged
  | functionsChanged
  | scopesChanged
  | activeScopeChanged
  | documentCleared
  deriving DecidableEq, Inhabited

/-- The written form of a kind of event. -/
def EventKind.tag : EventKind → String
  | variablesChanged => "variables_changed"
  | functionsChanged => "functions_changed"
  | scopesChanged => "scopes_changed"
  | activeScopeChanged => "active_scope_changed"
  | documentCleared => "document_cleared"

/-- The change of a symbol in a namespace. -/
def Namespace.eventKind : Namespace → EventKind
  | vars => .variablesChanged
  | functions => .functionsChanged

/-- A change of a document. -/
structure Event where
  document : String
  kind : EventKind
  name : Option String
  scopeId : Option String
  deriving DecidableEq

end LuauNodes
