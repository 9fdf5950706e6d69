import LuauNodes.Graph.Analysis
import LuauNodes.Session.Request

/-!
# Sessions

An editing session keeps listeners, and gives names to the mounts, bindings and
analyses that it works with.  A listener that is told of an event notes it, may
end subscriptions, carries out its script the first time, and may fail; a failing
listener is logged and hinders no other.
-/

namespace LuauNodes

/-- A listener: what it does when it is told of an event. -/
structure Listener where
  handle : String
  document : Option String
  fails : Bool
  dismissals : List String
  script : List Request

/-- The state of a session. -/
structure Session where
  /-- Every listener that ever subscribed. -/
  listeners : List Listener
  /-- The places of the listeners that are subscribed, in the order of subscription. -/
  subscribed : List Nat
  /-- The last listener that subscribed under a name. -/
  handles : OrderedMap String Nat
  mounts : OrderedMap String Nat
  bindings : OrderedMap String Nat
  analyzers : OrderedMap String Nat
  analyses : List Analysis
  /-- What listeners were told since it was last collected. -/
  told : List Notification

namespace Session

/-- A session in which nothing has happened. -/
def fresh : Session := ⟨[], [], ∅, ∅, ∅, ∅, [], []⟩

/-- A session with one more listener. -/
def subscribe (session : Session) (listener : Listener) : Session :=
  let place := session.listeners.length
  { session with
    listeners := session.listeners ++ [listener]
    subscribed := session.subscribed ++ [place]
    handles := session.handles.insert listener.handle place }

/-- A session in which a listener is told of nothing any more. -/
def dismiss (session : Session) (handle : String) : Session :=
  match session.handles.get? handle with
  | none => session
  | some place =>
    { session with subscribed := session.subscribed.filter fun other => other != place }

/-- The listeners that are to be told of an event. -/
def audience (session : Session) (event : Event) : List Nat :=
  session.subscribed.filter fun place =>
    match session.listeners[place]? with
    | some listener => listener.document.isNone || listener.document == some event.document
    | none => false

/-- A session in which the script of a listener is used up. -/
def exhaust (session : Session) (place : Nat) : Session :=
  { session with
    listeners := session.listeners.modify place fun listener => { listener with script := [] } }

/-- A session with one more thing that a listener was told. -/
def record (session : Session) (notification : Notification) : Session :=
  { session with told := session.told ++ [notification] }

end Session

/-- The sizes of a document. -/
def Registry.sizes (registry : Registry) (document : String) : DocumentSizes :=
  ⟨(registry.vars.list document).length, (registry.functions.list document).length,
    (registry.scopes.list document).length⟩

/-- Everything that a registry has in a document. -/
def Registry.snapshot (registry : Registry) (document : String) (listeners : Nat) : Snapshot :=
  { vars := registry.vars.list document
    functions := registry.functions.list document
    scopes := registry.scopes.list document
    active := registry.scopes.stack document
    variableDocuments := registry.vars.documentIds
    functionDocuments := registry.functions.documentIds
    scopeDocuments := registry.scopes.documentIds
    variableCount := registry.vars.size
    functionCount := registry.functions.size
    listenerCount := listeners }

end LuauNodes
