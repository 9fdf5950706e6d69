import LuauNodes.Node.Palette

/-!
# The status of a node

The status of a node sums up its diagnostics.  An error makes the node invalid,
and without an error a function that is not found makes it degraded.  Names that
are not known to an expression and variables that are missing are warnings, which
leave the status as it is.
-/

namespace LuauNodes

/-! ## Diagnostics -/

/-- How grave a problem is on a node: a name that means nothing leaves the node usable. -/
def Problem.severity : Problem → Severity
  | functionNotFound _ | variableNotFound _ | undefinedIdentifier _ => .warning
  | _ => .error

namespace Diagnostic

/-- A called function is not found. -/
def missesFunction (diagnostic : Diagnostic) : Bool := diagnostic.code == "FUNCTION_NOT_FOUND"

/-- A name in an expression is not known, or a variable that is read is missing. -/
def missesName (diagnostic : Diagnostic) : Bool :=
  diagnostic.code == "UNDEFINED_IDENTIFIER" || diagnostic.code == "VARIABLE_NOT_FOUND"

/-- The diagnostic is as grave as its problem. -/
def Graded (diagnostic : Diagnostic) : Prop :=
  diagnostic.severity = diagnostic.problem.severity

/-- The diagnostic is as grave as its problem, and it is not about a missing function. -/
structure Ordinary (diagnostic : Diagnostic) : Prop where
  graded : diagnostic.Graded
  found : diagnostic.missesFunction = false

/-- A name that is missing is no error, and no function. -/
theorem Graded.of_missesName
    {diagnostic : Diagnostic}
    (graded : diagnostic.Graded)
    (misses : diagnostic.missesName = true) :
    diagnostic.isError = false ∧ diagnostic.missesFunction = false := by
  rcases diagnostic with ⟨problem, severity, socketId⟩
  obtain rfl : severity = problem.severity := graded
  cases problem with
  | undefinedIdentifier name | variableNotFound name =>
      exact ⟨rfl, by simp [missesFunction, code, Problem.code]⟩
  | expression fault =>
      cases fault <;> simp [missesName, code, Problem.code, Expression.Fault.code] at misses
  | _ => simp [missesName, code, Problem.code] at misses

end Diagnostic

namespace NodeStatus

/-- The status that some diagnostics stand for. -/
def summary (diagnostics : List Diagnostic) : NodeStatus :=
  if diagnostics.any Diagnostic.isError then .invalid
  else if diagnostics.any Diagnostic.missesFunction then .degraded
  else .ok

variable {diagnostics : List Diagnostic}

theorem any_isError_iff :
    diagnostics.any Diagnostic.isError = true ↔
      ∃ diagnostic ∈ diagnostics, diagnostic.severity = .error := by
  simp [Diagnostic.isError]

theorem any_missesFunction_iff :
    diagnostics.any Diagnostic.missesFunction = true ↔
      ∃ diagnostic ∈ diagnostics, diagnostic.code = "FUNCTION_NOT_FOUND" := by
  simp [Diagnostic.missesFunction]

/-- Names that are missing do not count. -/
theorem summary_filter_missesName
    (graded : ∀ diagnostic ∈ diagnostics, diagnostic.Graded) :
    summary (diagnostics.filter fun diagnostic => !diagnostic.missesName) =
      summary diagnostics := by
  have counts : ∀ test : Diagnostic → Bool,
      (∀ diagnostic ∈ diagnostics, diagnostic.missesName = true → test diagnostic = false) →
      (diagnostics.filter fun diagnostic => !diagnostic.missesName).any test =
        diagnostics.any test := by
    intro test fails
    rw [List.any_filter, Bool.eq_iff_iff, List.any_eq_true, List.any_eq_true]
    refine exists_congr fun diagnostic => and_congr_right fun member => ?_
    cases misses : diagnostic.missesName with
    | false => simp
    | true => simp [fails diagnostic member misses]
  rw [summary, summary,
    counts _ fun diagnostic member misses => ((graded diagnostic member).of_missesName misses).1,
    counts _ fun diagnostic member misses => ((graded diagnostic member).of_missesName misses).2]

end NodeStatus

/-! ## Diagnostics of nodes -/

namespace Diagnostic

/-- Only a function that is not found counts as a missing function. -/
theorem missesFunction_of_ne
    {diagnostic : Diagnostic}
    (other : ∀ name, diagnostic.problem ≠ .functionNotFound name) :
    diagnostic.missesFunction = false := by
  rcases diagnostic with ⟨problem, severity, socketId⟩
  cases problem with
  | functionNotFound name => exact absurd rfl (other name)
  | expression fault =>
      cases fault <;> simp [missesFunction, code, Problem.code, Expression.Fault.code]
  | _ => simp [missesFunction, code, Problem.code]

@[simp]
theorem ordinary_expression (fault : Expression.Fault) (socketId : Option String) :
    Ordinary ⟨.expression fault, .error, socketId⟩ :=
  ⟨rfl, missesFunction_of_ne nofun⟩

@[simp]
theorem ordinary_undefinedIdentifier (name : String) (socketId : Option String) :
    Ordinary ⟨.undefinedIdentifier name, .warning, socketId⟩ :=
  ⟨rfl, missesFunction_of_ne nofun⟩

@[simp]
theorem ordinary_variableNotFound (name : String) :
    (Diagnostic.warning (.variableNotFound name)).Ordinary :=
  ⟨rfl, missesFunction_of_ne nofun⟩

@[simp]
theorem ordinary_invalidConfiguration (kind details : String) :
    (Diagnostic.error (.invalidConfiguration kind details)).Ordinary :=
  ⟨rfl, missesFunction_of_ne nofun⟩

@[simp]
theorem ordinary_invalidIdentifier (name : String) :
    (Diagnostic.error (.invalidIdentifier name)).Ordinary :=
  ⟨rfl, missesFunction_of_ne nofun⟩

@[simp]
theorem ordinary_reservedIdentifier (name : String) :
    (Diagnostic.error (.reservedIdentifier name)).Ordinary :=
  ⟨rfl, missesFunction_of_ne nofun⟩

end Diagnostic

theorem ordinary_of_mem_nameDiagnostics {name : String} :
    ∀ diagnostic ∈ nameDiagnostics name, diagnostic.Ordinary := by
  unfold nameDiagnostics
  split
  · simp
  · split <;> simp

theorem ordinary_of_mem_expressionDiagnostics
    {expression : Option String}
    {context : SocketContext}
    {field : String} :
    ∀ diagnostic ∈ expressionDiagnostics expression context field, diagnostic.Ordinary := by
  unfold expressionDiagnostics Expression.check
  split
  · simp
  · simp
  · split
    · simp only [List.forall_mem_map]
      simp
    · simp

theorem ordinary_of_mem_branchDiagnostics
    {branches : List ConditionBranch}
    {context : SocketContext} :
    ∀ diagnostic ∈ branchDiagnostics branches context, diagnostic.Ordinary := by
  unfold branchDiagnostics
  intro diagnostic member
  obtain ⟨⟨place, branch⟩, -, among⟩ := List.mem_flatMap.mp member
  dsimp only at among
  split at among
  · cases among
  · exact ordinary_of_mem_expressionDiagnostics diagnostic among

theorem ordinary_of_mem_parameterDiagnostics
    {seen : List String}
    {place : Nat}
    {parameters : List Parameter} :
    ∀ diagnostic ∈ parameterDiagnostics seen place parameters, diagnostic.Ordinary := by
  induction parameters generalizing seen place with
  | nil => simp [parameterDiagnostics]
  | cons parameter rest ih =>
      simp only [parameterDiagnostics, List.forall_mem_append]
      refine ⟨⟨ordinary_of_mem_nameDiagnostics, ?_⟩, ih⟩
      split <;> simp

/-- Every diagnostic is as grave as its problem, and the status tells whether a function is
missing, whatever else is wrong. -/
structure NodeSockets.Founded (sockets : NodeSockets) : Prop where
  graded : ∀ diagnostic ∈ sockets.diagnostics, diagnostic.Graded
  status : sockets.status =
    if sockets.diagnostics.any Diagnostic.missesFunction then .degraded else .ok

namespace NodeSockets

theorem founded_reporting
    {inputs outputs : List Socket}
    {diagnostics : List Diagnostic}
    (ordinary : ∀ diagnostic ∈ diagnostics, diagnostic.Ordinary) :
    (reporting inputs outputs diagnostics).Founded where
  graded := fun diagnostic member => (ordinary diagnostic member).graded
  status := by
    have found : diagnostics.any Diagnostic.missesFunction = false :=
      List.any_eq_false.mpr fun diagnostic member => by simp [(ordinary diagnostic member).found]
    simp [reporting, found]

theorem founded_sound (inputs outputs : List Socket) : (sound inputs outputs).Founded :=
  founded_reporting fun _ member => (List.not_mem_nil member).elim

end NodeSockets

open NodeSockets (Founded founded_reporting founded_sound)

theorem founded_functionCallSockets (config : CallConfig) (context : SocketContext) :
    (functionCallSockets config context).Founded := by
  unfold functionCallSockets
  dsimp only
  split
  · exact founded_sound _ _
  · split
    · exact founded_sound _ _
    · refine ⟨?_, ?_⟩
      · intro diagnostic member
        obtain rfl := List.mem_singleton.mp member
        rfl
      · simp [Diagnostic.missesFunction, Diagnostic.code, Problem.code, Diagnostic.warning]

theorem founded_statementSockets
    (flow wired : Socket)
    (outputs : List Socket)
    (field : String)
    (config : StatementConfig)
    (context : SocketContext) :
    (statementSockets flow wired outputs field config context).Founded := by
  unfold statementSockets
  split
  · exact founded_sound _ _
  · exact founded_reporting ordinary_of_mem_expressionDiagnostics

/-- The status of a shape comes from its diagnostics. -/
theorem Shape.founded_sockets (shape : Shape) (config : shape.Config) (context : SocketContext) :
    (shape.sockets config context).Founded := by
  cases shape with
  | string | number | boolean =>
      simp only [sockets, valueSockets]
      split
      · exact founded_sound _ _
      · exact founded_reporting ordinary_of_mem_expressionDiagnostics
  | operator operand result operands =>
      simp only [sockets, operatorSockets]
      split
      · exact founded_sound _ _
      · exact founded_reporting ordinary_of_mem_expressionDiagnostics
  | ifElse =>
      refine founded_reporting (List.forall_mem_append.mpr ⟨?_, ordinary_of_mem_branchDiagnostics⟩)
      split
      · simp
      · exact ordinary_of_mem_expressionDiagnostics
  | whileLoop | repeatUntil | returnValue => exact founded_statementSockets _ _ _ _ config context
  | forLoop =>
      have names : ∀ diagnostic ∈ config.loopVariables.flatMap nameDiagnostics,
          diagnostic.Ordinary :=
        List.forall_mem_flatMap.mpr fun _ _ => ordinary_of_mem_nameDiagnostics
      simp only [sockets, forLoopSockets]
      split
      · exact founded_reporting names
      · exact founded_reporting
          (List.forall_mem_append.mpr ⟨names, ordinary_of_mem_expressionDiagnostics⟩)
  | variableGet =>
      refine founded_reporting fun diagnostic member => ?_
      obtain ⟨-, among⟩ := List.mem_ite_nil_right.mp member
      obtain rfl := List.mem_singleton.mp among
      exact Diagnostic.ordinary_variableNotFound _
  | variableSet =>
      refine founded_reporting ?_
      split
      · simp
      · exact ordinary_of_mem_nameDiagnostics
  | functionDefinition =>
      refine founded_reporting
        (List.forall_mem_append.mpr ⟨?_, ordinary_of_mem_parameterDiagnostics⟩)
      split
      · simp
      · exact ordinary_of_mem_nameDiagnostics
  | functionCall => exact founded_functionCallSockets config context
  | _ => exact founded_sound _ _

/-! ## Kinds of nodes -/

namespace NodeKind

theorem ordinary_of_mem_configDiagnostics (kind : NodeKind) (stored : Json) :
    ∀ diagnostic ∈ kind.configDiagnostics stored, diagnostic.Ordinary := by
  unfold configDiagnostics
  split <;> simp

/-- Reading the stored data first may add an error; every error makes the node invalid. -/
theorem status_resolve (kind : NodeKind) (stored : Json) (context : SocketContext) :
    (kind.resolve stored context).status =
        .summary (kind.resolve stored context).diagnostics ∧
      ∀ diagnostic ∈ (kind.resolve stored context).diagnostics, diagnostic.Graded := by
  have founded := kind.shape.founded_sockets (kind.configOf stored) context
  have read := kind.ordinary_of_mem_configDiagnostics stored
  refine ⟨?_, List.forall_mem_append.mpr
    ⟨fun diagnostic member => (read diagnostic member).graded, founded.graded⟩⟩
  have found : (kind.configDiagnostics stored).any Diagnostic.missesFunction = false :=
    List.any_eq_false.mpr fun diagnostic member => by simp [(read diagnostic member).found]
  simp only [resolve, NodeStatus.summary, List.any_append, found, Bool.false_or, founded.status]
  split
  · split <;> rfl
  · rfl

end NodeKind

namespace Palette

variable (palette : Palette) (kindId : String) (stored : Json) (context : SocketContext)

theorem status_sockets :
    (palette.sockets kindId stored context).status =
        .summary (palette.sockets kindId stored context).diagnostics ∧
      ∀ diagnostic ∈ (palette.sockets kindId stored context).diagnostics, diagnostic.Graded := by
  unfold sockets
  split
  · refine ⟨rfl, ?_⟩
    intro diagnostic member
    obtain rfl := List.mem_singleton.mp member
    rfl
  · exact NodeKind.status_resolve _ stored context

/-- The status of a node is what its diagnostics say: it is invalid exactly if one of them is an
error, degraded exactly if none is and a function is missing, and fine otherwise.  Names and
variables that are missing could be left out. -/
theorem status_sumsUp :
    let sockets := palette.sockets kindId stored context
    let hasError := ∃ diagnostic ∈ sockets.diagnostics, diagnostic.severity = .error
    let lacksFunction := ∃ diagnostic ∈ sockets.diagnostics, diagnostic.code = "FUNCTION_NOT_FOUND"
    (sockets.status = .invalid ↔ hasError) ∧
      (sockets.status = .degraded ↔ ¬hasError ∧ lacksFunction) ∧
      (sockets.status = .ok ↔ ¬hasError ∧ ¬lacksFunction) ∧
      sockets.status =
        .summary (sockets.diagnostics.filter fun diagnostic => !diagnostic.missesName) := by
  intro sockets hasError lacksFunction
  obtain ⟨status, graded⟩ := palette.status_sockets kindId stored context
  refine ⟨?_, ?_, ?_, status.trans (NodeStatus.summary_filter_missesName graded).symm⟩
  all_goals
    rw [status, NodeStatus.summary]
    simp only [hasError, lacksFunction, sockets, ← NodeStatus.any_isError_iff,
      ← NodeStatus.any_missesFunction_iff]
    split
    · simp_all
    · split <;> simp_all

-- A call of a missing function is no error, but it is not fine either.
example :
    (standard.sockets "FunctionCall" (.object [("functionName", .text "f")]) .empty).status =
      .degraded := by
  decide +kernel

end Palette

end LuauNodes
