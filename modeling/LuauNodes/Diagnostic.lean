import LuauNodes.Problem

/-!
# Diagnostics

A problem as it is shown on a node: how grave it is, and the socket that it
concerns, if any.
-/

namespace LuauNodes

/-- How grave a diagnostic is. -/
inductive Severity where
  | error
  | warning
  | info
  deriving DecidableEq, Inhabited

/-- The written form of a severity. -/
def Severity.tag : Severity → String
  | error => "error"
  | warning => "warning"
  | info => "info"

/-- A problem as it is shown on a node. -/
structure Diagnostic where
  problem : Problem
  severity : Severity
  socketId : Option String
  deriving DecidableEq

namespace Diagnostic

/-- A problem that makes its node invalid. -/
def error (problem : Problem) : Diagnostic := ⟨problem, .error, none⟩

/-- A problem that leaves its node usable. -/
def warning (problem : Problem) : Diagnostic := ⟨problem, .warning, none⟩

/-- The code of the problem. -/
def code (diagnostic : Diagnostic) : String := diagnostic.problem.code

/-- The wording of the problem. -/
def message (diagnostic : Diagnostic) : String := diagnostic.problem.message

/-- The diagnostic makes its node invalid. -/
def isError (diagnostic : Diagnostic) : Bool := diagnostic.severity == .error

end Diagnostic

end LuauNodes
