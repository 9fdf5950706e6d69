import LuauNodes.Problem
import LuauNodes.Record.Checked
import LuauNodes.Registry.ScopeTree

/-!
# Failures

Why a request to an editing session is not carried out to its end.
-/

namespace LuauNodes

/-- Why an activity ends early. -/
inductive Failure where
  /-- A problem with a graph or a node. -/
  | problem (cause : Problem)
  /-- Data that does not have the form it should have. -/
  | invalid (faults : List Record.Fault)
  /-- A scope that cannot be created, or a chain of parents that does not end. -/
  | tree (fault : TreeFault)
  /-- A kind of node that is registered already. -/
  | duplicateKind (kind : String)
  /-- A text that names no kind of scope. -/
  | unknownScopeKind (text : String)
  /-- A handle that was never made. -/
  | unknownHandle (handle : String)
  /-- A scope that should be changed and is not stored. -/
  | missingScope
  /-- A caller that asked for a failure. -/
  | requested

/-- The wording of a fault of a scope tree. -/
def TreeFault.message : TreeFault → String
  | globalScope => "the global scope is implicit"
  | cycle document scopeId =>
    s!"Scope cycle detected in document '{document}' at '{scopeId}'."

/-- The wording of a failure. -/
def Failure.message : Failure → String
  | problem cause => cause.message
  | invalid faults => Record.faultsMessage faults
  | tree fault => fault.message
  | duplicateKind kind => s!"Node kind '{kind}' is already registered."
  | unknownScopeKind text => s!"'{text}' is not a valid ScopeKind"
  | unknownHandle handle => s!"'{handle}'"
  | missingScope => "'NoneType' object has no attribute 'parent_scope_id'"
  | requested => ""

end LuauNodes
