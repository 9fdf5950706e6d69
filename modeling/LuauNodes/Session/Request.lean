import LuauNodes.Failure
import LuauNodes.Graph.Report
import LuauNodes.Session.Question

/-!
# Requests and responses

What an editor asks of a session, and what it gets back.  Data that may be
malformed is part of a request as it came; it is read when the request is carried
out, and a mismatch is a failure of that request alone.
-/

namespace LuauNodes

open LuauNodes.Record

/-- A request for the scope of a node. -/
structure MountRequest where
  handle : String
  nodeId : String
  kind : String
  parentId : Option String
  symbols : List SymbolDraft
  enter : Bool

/-- A request for a binding. -/
structure BindingRequest where
  handle : String
  space : Namespace
  scopeId : Option String

/-- One end of a connection: a kind of node, its stored data and a handle. -/
structure ConnectionEnd where
  kind : String
  stored : Json
  handle : Option String

/-- What is held for the time of a block. -/
inductive Held where
  | mount (request : MountRequest)
  | binding (request : BindingRequest)
  | analysis (handle : String)
  | scope (scopeId : Option String)

/-- Something that an editor asks of a session. -/
inductive Request where
  | ask (document : String) (question : Question)
  | add (document : String) (space : Namespace) (draft : SymbolDraft)
  | revise (document : String) (space : Namespace) (name : String) (scopeId : Option String)
    (fields : Fields)
  | remove (document : String) (space : Namespace) (name : String) (scopeId : Option String)
  | clearSymbols (document : String) (space : Namespace)
  | clearDocument (document : String)
  | clearAll
  | createScope (document : String) (data : Json)
  | destroyScope (document : String) (scopeId : Option String)
  | enterScope (document : String) (scopeId : Option String)
  | exitScope (document : String) (scopeId : Option String)
  | setParent (document : String) (scopeId parentId : Option String)
  | dump (document : String)
  | subscribe (handle : String) (document : Option String) (fails : Bool)
    (dismissals : List String) (script : List Request)
  | unsubscribe (handle : String)
  | mount (document : String) (request : MountRequest)
  | mountState (handle : String)
  | mountDeclare (handle : String) (draft : SymbolDraft)
  | unmount (handle : String)
  | bind (document : String) (request : BindingRequest)
  | sync (handle : String) (name : Option String) (fields : Fields)
  | moveTo (handle : String) (scopeId : Option String)
  | bindingState (handle : String)
  | release (handle : String)
  | block (document : String) (held : Held) (steps : List Request) (fails : Bool)
  | sockets (document : String) (kind : String) (stored : Json) (scopeId : Option String)
    (feeds : Feeds)
  | connect (document : String) (scopeId : Option String)
    (feeds : Feeds) (source target : ConnectionEnd)
  | analyzer (document handle : String) (graph : Json) (kinds : Option (List String))
  | analyze (handle : String)
  | close (handle : String)
  | nodeVisible (handle nodeId : String)
  | nodeComplete (handle nodeId fragment : String) (filter : Option Completion.TypeFilter)
    (source : Completion.Source)

mutual

/-- The number of requests in a request, those in blocks and scripts included. -/
def Request.size : Request → Nat
  | .subscribe _ _ _ _ script => Request.totalSize script + 1
  | .block _ _ steps _ => Request.totalSize steps + 1
  | _ => 1

/-- The number of requests in a list. -/
def Request.totalSize : List Request → Nat
  | [] => 0
  | request :: rest => request.size + Request.totalSize rest

end

/-- Everything that a registry has in a document, and the sizes of the whole registry. -/
structure Snapshot where
  vars : List Symbol
  functions : List Symbol
  scopes : List Scope
  active : List String
  variableDocuments : List String
  functionDocuments : List String
  scopeDocuments : List String
  variableCount : Nat
  functionCount : Nat
  listenerCount : Nat

/-- The sizes of a document at the time of an event. -/
structure DocumentSizes where
  vars : Nat
  functions : Nat
  scopes : Nat

/-- An event as a listener was told of it. -/
structure Notification where
  listener : String
  event : Event
  sizes : DocumentSizes

/-- What a node with stored data has where it sits: sockets, configuration and symbols. -/
structure NodeView where
  sockets : NodeSockets
  details : Option (List (String × Json) × List Symbol × Option Symbol)

mutual

/-- What an editor gets back.  A block says how many of its own notices come before those of its
steps. -/
inductive Response where
  | nothing
  | reply (reply : Reply)
  | snapshot (snapshot : Snapshot)
  | mount (mounted : Bool) (scopeId : String) (scope : Option Scope)
  | binding (name scopeId : Option String)
  | node (view : NodeView)
  | connection (check : ConnectionCheck)
  | report (report : GraphReport)
  | visible (vars functions : List Symbol)
  | block (failed : Bool) (entered : Option Bool) (opening : Nat) (steps : List Answer)

/-- A response or a failure, with the events that were told and the notices that were logged on
the way. -/
inductive Answer where
  | done (response : Response) (told : List Notification) (notices : List Notice)
  | failed (failure : Failure) (told : List Notification) (notices : List Notice)

end

instance : Inhabited Response := ⟨.nothing⟩

mutual

/-- Every notice of an answer in the order of logging, those of the steps of a block included. -/
def Answer.log : Answer → List Notice
  | .done (.block _ _ opening steps) _ notices =>
    notices.take opening ++ Answer.logs steps ++ notices.drop opening
  | .done _ _ notices => notices
  | .failed _ _ notices => notices

/-- Every notice of some answers. -/
def Answer.logs : List Answer → List Notice
  | [] => []
  | answer :: rest => answer.log ++ Answer.logs rest

end

/-- The view of a node with stored data. -/
def NodeView.of (palette : Palette) (kind : String) (stored : Json) (context : SocketContext) :
    NodeView :=
  ⟨palette.sockets kind stored context,
    (palette.get? kind).map fun found =>
      (found.shape.dump (found.configOf stored), found.scopeSymbols stored,
        found.declaredSymbol stored context)⟩

/-- The notices of a view: the configuration is read for the sockets, on its own, and for each of
the two sorts of symbols that the kind has. -/
def NodeView.notices (palette : Palette) (kind : String) (stored : Json) : List Notice :=
  match palette.get? kind with
  | none => []
  | some found =>
    let once := found.configNotices stored
    once ++ once ++ (if found.shape.hasScopeSymbols then once else []) ++
      (if found.shape.declaration?.isSome then once else [])

end LuauNodes
