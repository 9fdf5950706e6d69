import LuauNodes.Node.Kind
import LuauNodes.Workspace.Basic

/-!
# Mounts

The pairing of acquiring the scope of a node and releasing it.  Releasing leaves
the scope, removes what was declared through the mount and destroys the scope
with everything below it.  A mount whose scope was refused does nothing, and
releasing a second time does nothing.
-/

namespace LuauNodes.Act

variable {η : Type}

/-- The mount at a place. -/
def mount? (place : Nat) : Act η (Option Mount) := return (← get).mounts[place]?

/-- Changes the mount at a place. -/
def modifyMount (place : Nat) (f : Mount → Mount) : Act η Unit :=
  modify fun workspace => { workspace with mounts := workspace.mounts.modify place f }

/-- The namespace that a symbol belongs to. -/
def spaceOf (symbol : Symbol) : Namespace :=
  if symbol.isFunction then .functions else .vars

/-- A mount with a further declaration. -/
def remember (space : Namespace) (name : String) (mount : Mount) : Mount :=
  if mount.declared.contains (space, name) then mount
  else { mount with declared := mount.declared ++ [(space, name)] }

/-- Declares a symbol in the scope of a mount. -/
def declareIn (tell : Event → Act η Unit) (place : Nat) (symbol : Symbol) :
    Act η (Option Symbol) := do
  let some mount ← mount? place | return none
  if !mount.mounted then return none
  let space := spaceOf symbol
  let stored ← perform tell fun registry =>
    registry.declare space mount.document { symbol with scopeId := some mount.scopeId }
  if let some declared := stored then
    modifyMount place (remember space declared.name)
  return stored

/-- Creates the scope of a node, declares symbols in it and enters it on demand.  The answer is
the place of the mount. -/
def mountScope
    (tell : Event → Act η Unit)
    (document nodeId : String)
    (kind : ScopeKind)
    (parentId : Option String)
    (symbols : List Symbol)
    (enter : Bool) :
    Act η Nat := do
  let scopeId := scopeIdFor nodeId kind
  let watch ← createScope tell document (.fresh scopeId kind parentId (some nodeId))
  let place := (← get).mounts.length
  modify fun workspace =>
    { workspace with
      mounts := workspace.mounts ++ [⟨document, scopeId, watch, [], watch.isSome⟩] }
  if watch.isSome then
    for symbol in symbols do
      discard (declareIn tell place symbol)
    if enter then
      discard (perform tell fun registry => registry.enterScope document (some scopeId))
  return place

/-- Releases the scope of a mount with everything that was declared in it. -/
def unmount (tell : Event → Act η Unit) (place : Nat) : Act η Unit := do
  let some mount ← mount? place | return
  if !mount.mounted then return
  modifyMount place fun held => { held with mounted := false }
  discard (perform tell fun registry => registry.exitScope mount.document mount.scopeId)
  for (space, name) in mount.declared do
    discard (perform tell fun registry =>
      registry.remove space mount.document name (some mount.scopeId))
  modifyMount place fun held => { held with declared := [] }
  discard (perform tell fun registry => registry.destroyScope mount.document mount.scopeId)
  note [.scopeUnmounted mount.document mount.scopeId]

/-- Enters a stored scope for the time of a block; what was not entered is not left. -/
def withScope
    {α : Type}
    (tell : Event → Act η Unit)
    (document : String)
    (scopeId : Option String)
    (block : Bool → Act η α) :
    Act η α := do
  let entered ← perform tell fun registry => registry.enterScope document scopeId
  let leave : Act η Unit :=
    match scopeId, entered with
    | some inner, true =>
      discard (perform tell fun registry => registry.exitScope document inner)
    | _, _ => pure ()
  try
    let answer ← block entered
    leave
    return answer
  catch failure =>
    leave
    throw failure

end LuauNodes.Act
