import LuauNodes.Failure
import LuauNodes.Registry.Basic

/-!
# Workspaces

A registry in use.  Others hold on to parts of it: a watch follows one scope for
as long as it is stored and keeps its last state afterwards, a mount holds the
scope of a node together with what was declared in it, and a binding holds one
declaration.  Activities change the registry one operation at a time, and every
operation is complete before its events are told.
-/

namespace LuauNodes

/-- A scope that is followed. -/
structure Watch where
  document : String
  scope : Scope
  live : Bool

/-- The scope of a node, with what the node declared in it. -/
structure Mount where
  document : String
  scopeId : String
  watch : Option Nat
  declared : List (Namespace × String)
  mounted : Bool

/-- The one declaration that a node keeps in a scope. -/
structure Binding where
  space : Namespace
  document : String
  scopeId : Option String
  name : Option String

/-- A registry in use, with what its user keeps besides. -/
structure Workspace (η : Type) where
  registry : Registry
  watches : List Watch
  mounts : List Mount
  bindings : List Binding
  notices : List Notice
  rest : η

/-- An activity in a workspace.  What is done before a failure stays done. -/
abbrev Act (η α : Type) : Type := ExceptT Failure (StateM (Workspace η)) α

/-- A scope that is followed, after a change of the registry. -/
def Watch.refresh (registry : Registry) (watch : Watch) : Watch :=
  match watch.live, registry.scopes.get? watch.document (some watch.scope.id) with
  | false, _ => watch
  | true, some scope => { watch with scope := scope }
  | true, none => { watch with live := false }

namespace Workspace

variable {η α : Type}

/-- A workspace with an empty registry. -/
def fresh (rest : η) : Workspace η := ⟨∅, [], [], [], [], rest⟩

/-- A workspace after a change of its registry. -/
def adopt (workspace : Workspace η) (change : Change α) : Workspace η :=
  { workspace with
    registry := change.registry
    watches := workspace.watches.map (Watch.refresh change.registry)
    notices := workspace.notices ++ change.notices }

/-- The state of the scope that a mount holds. -/
def mountedScope? (workspace : Workspace η) (mount : Mount) : Option Scope :=
  (mount.watch.bind fun place => workspace.watches[place]?).map Watch.scope

end Workspace

namespace Act

variable {η α : Type}

/-- Ends an activity. -/
def fail (failure : Failure) : Act η α := throw failure

/-- The registry as it is now. -/
def registry : Act η Registry := return (← get).registry

/-- What the user of the workspace keeps. -/
def rest : Act η η := return (← get).rest

/-- Changes what the user of the workspace keeps. -/
def modifyRest (f : η → η) : Act η Unit :=
  modify fun workspace => { workspace with rest := f workspace.rest }

/-- Adds notices to the log. -/
def note (notices : List Notice) : Act η Unit :=
  modify fun workspace => { workspace with notices := workspace.notices ++ notices }

/-- The answer of a tree, or the failure that its fault is. -/
def ofTree : Except TreeFault α → Act η α
  | .ok value => pure value
  | .error fault => fail (.tree fault)

/-- A value that was read, or the failure that its faults are. -/
def ofChecked : Record.Checked α → Act η α
  | .ok value => pure value
  | .bad faults => fail (.invalid faults)

/-- Takes over a change of the registry. -/
def commit (change : Change α) : Act η Unit := modify fun workspace => workspace.adopt change

/-- Carries out an operation, and then tells its events. -/
def perform (tell : Event → Act η Unit) (operation : Registry → Change α) : Act η α := do
  let change := operation (← registry)
  commit change
  change.events.forM tell
  return change.result

/-- Begins to follow a scope. -/
def follow (document : String) (scope : Scope) : Act η Nat := do
  let place := (← get).watches.length
  modify fun workspace =>
    { workspace with watches := workspace.watches ++ [⟨document, scope, true⟩] }
  return place

/-- Creates a scope and follows it from before the events are told. -/
def createScope (tell : Event → Act η Unit) (document : String) (scope : Scope) :
    Act η (Option Nat) := do
  let change ← ofTree ((← registry).createScope document scope)
  commit change
  let watch ← change.result.mapM (follow document)
  change.events.forM tell
  return watch

/-- The state of a scope that is followed. -/
def followed? (watch : Option Nat) : Act η (Option Scope) := do
  let workspace ← get
  return (watch.bind fun place => workspace.watches[place]?).map Watch.scope

/-- Removes everything that any document has, document by document. -/
def clearAll (tell : Event → Act η Unit) : Act η Unit := do
  for document in (← registry).documents do
    perform tell fun registry => registry.clearDocument document

end Act

end LuauNodes
