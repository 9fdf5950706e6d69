import LuauNodes.Text.Blank
import LuauNodes.Workspace.Basic

/-!
# Bindings

A binding keeps the declaration of one node in step with the node: renaming
moves the entry, moving the node moves the entry to another scope, and a blank
name has no entry.
-/

namespace LuauNodes.Act

variable {η : Type}

/-- A binding that declares nothing yet.  The answer is its place. -/
def addBinding (space : Namespace) (document : String) (scopeId : Option String) : Act η Nat := do
  let place := (← get).bindings.length
  modify fun workspace =>
    { workspace with bindings := workspace.bindings ++ [⟨space, document, scopeId, none⟩] }
  return place

/-- The binding at a place. -/
def binding? (place : Nat) : Act η (Option Binding) := return (← get).bindings[place]?

/-- Changes the binding at a place. -/
def modifyBinding (place : Nat) (f : Binding → Binding) : Act η Unit :=
  modify fun workspace => { workspace with bindings := workspace.bindings.modify place f }

/-- Gives the binding at a place the name of what was stored for it. -/
def rename (place : Nat) (name : Option String) : Act η Unit :=
  modifyBinding place fun binding => { binding with name := name }

/-- Removes an entry of a binding. -/
def drop (tell : Event → Act η Unit) (binding : Binding) (name : String) : Act η Unit :=
  discard (perform tell fun registry =>
    registry.remove binding.space binding.document name binding.scopeId)

/-- Declares a symbol for a binding and takes over its name. -/
def store (tell : Event → Act η Unit) (place : Nat) (binding : Binding) (symbol : Symbol) :
    Act η (Option Symbol) := do
  let stored ← perform tell fun registry =>
    registry.declare binding.space binding.document symbol
  rename place (stored.map Symbol.name)
  return stored

/-- Brings the entry of a binding in step with a name.  An entry with another name goes first;
then the symbol of the new name is built, which may fail. -/
def sync
    (tell : Event → Act η Unit)
    (place : Nat)
    (name : Option String)
    (build : Option String → String → Record.Checked Symbol) :
    Act η (Option Symbol) := do
  let some binding ← binding? place | return none
  let wanted := Text.strip (name.getD "")
  if let some old := binding.name then
    if old != wanted then
      drop tell binding old
      rename place none
  if wanted.isEmpty then return none
  let some current ← binding? place | return none
  let symbol ← ofChecked (build current.scopeId wanted)
  store tell place current symbol

/-- Moves the entry of a binding to another scope. -/
def moveTo (tell : Event → Act η Unit) (place : Nat) (scopeId : Option String) :
    Act η Unit := do
  let some binding ← binding? place | return
  if binding.scopeId == scopeId then return
  let table := (← registry).table binding.space
  let entry := binding.name.bind fun name =>
    table.lookup? binding.document ⟨binding.scopeId, name⟩
  if let some name := binding.name then
    drop tell binding name
  modifyBinding place fun held => { held with scopeId := scopeId }
  if let some symbol := entry then
    discard (store tell place binding { symbol with scopeId := scopeId })

/-- Removes the entry of a binding. -/
def release (tell : Event → Act η Unit) (place : Nat) : Act η Unit := do
  let some binding ← binding? place | return
  if let some name := binding.name then
    drop tell binding name
    rename place none

end LuauNodes.Act
