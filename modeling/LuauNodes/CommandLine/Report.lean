import LuauNodes.Graph.Report

/-!
# Reports for a terminal

The text of a report, with headings and statuses in colour.  Every list that
could be empty has a mark in its place.
-/

namespace LuauNodes.CommandLine

/-- A colour of the terminal. -/
inductive Colour where
  | red
  | green
  | yellow
  | cyan

/-- The sequence that begins a colour. -/
def Colour.start : Colour → String
  | red => "\x1b[91m"
  | green => "\x1b[92m"
  | yellow => "\x1b[93m"
  | cyan => "\x1b[96m"

/-- A text in a colour. -/
def coloured (colour : Colour) (text : String) : String := colour.start ++ text ++ "\x1b[0m"

/-- A heading behind an empty line. -/
def heading (colour : Colour) (title : String) : List String :=
  ["", coloured colour ("--- " ++ title ++ " ---")]

/-- The colour of a status. -/
def statusColour : NodeStatus → Colour
  | .ok => .green
  | .degraded => .yellow
  | .invalid => .red

/-- Texts with commas between them, or a mark where there are none. -/
def listed (texts : List String) : String :=
  let joined := String.intercalate ", " texts
  if joined.isEmpty then "-" else joined

/-- A scope, or the word for no scope. -/
def scopeText (scopeId : Option String) : String :=
  match scopeId with
  | some id => if id.isEmpty then "global" else id
  | none => "global"

/-- A socket with its types. -/
def socketText (socket : Socket) : String :=
  socket.id ++ ": " ++ socket.type.tag ++
    match socket.refined with
    | some type => s!" ({type.tag})"
    | none => ""

/-- A diagnostic behind an indentation. -/
def diagnosticText (diagnostic : Diagnostic) : String :=
  s!"    {diagnostic.severity.tag}: {diagnostic.message}"

/-- The lines of a node. -/
def nodeLines (node : NodeReport) : List String :=
  [s!"{node.nodeId} [{node.kind}] in {scopeText node.scopeId}: " ++
      coloured (statusColour node.sockets.status) node.sockets.status.tag,
    "    inputs:  " ++ listed (node.sockets.inputs.map socketText),
    "    outputs: " ++ listed (node.sockets.outputs.map socketText)] ++
    node.sockets.diagnostics.map diagnosticText

/-- The line of a scope. -/
def scopeLine (scope : Scope) : String :=
  s!"{scope.id} ({scope.kind.tag}) parent={scopeText scope.parentId} " ++
    "members: " ++ listed scope.memberNames.toList

/-- The line of an edge that is not allowed. -/
def issueLine (issue : EdgeIssue) : String :=
  s!"{issue.edge.id} ({issue.edge.source} -> {issue.edge.target}): {issue.problem.message}"

/-- The lines of a report. -/
def reportLines (report : GraphReport) : List String :=
  heading .cyan "Nodes" ++ report.nodes.flatMap nodeLines ++
    heading .cyan "Scopes" ++ report.scopes.map scopeLine ++
    (if report.issues.isEmpty then []
      else heading .red "Invalid Connections" ++ report.issues.map issueLine)

/-- The line of a visible variable. -/
def variableLine (symbol : Symbol) : String :=
  s!"{symbol.name}: {symbol.type.tag} ({scopeText symbol.scopeId})"

/-- The line of a visible function. -/
def functionLine (symbol : Symbol) : String :=
  symbol.signatureText (symbol.signature.getD default) ++ s!" ({scopeText symbol.scopeId})"

/-- What is visible from a node, and what completes a fragment there. -/
structure Surroundings where
  nodeId : String
  vars : List Symbol
  functions : List Symbol
  completions : Option (String × List Symbol)

/-- The lines of the surroundings of a node. -/
def surroundingsLines (found : Surroundings) : List String :=
  heading .cyan s!"Visible from {found.nodeId}" ++
    found.vars.map variableLine ++ found.functions.map functionLine ++
    match found.completions with
    | some (fragment, symbols) =>
      ["", s!"Completions for '{fragment}': " ++ listed (symbols.map Symbol.name)]
    | none => []

/-- Symbols as JSON. -/
def symbolsJson (symbols : List Symbol) : Json := .list (symbols.map Symbol.toJson)

/-- A report and the surroundings of a node as JSON. -/
def inspectionJson (report : GraphReport) (found : Option Surroundings) : Json :=
  .object ([("report", report.toJson)] ++
    match found with
    | none => []
    | some found =>
      [("visible", .object
          [("variables", symbolsJson found.vars), ("functions", symbolsJson found.functions)])]
        ++
        match found.completions with
        | some (_, symbols) => [("completions", symbolsJson symbols)]
        | none => [])

end LuauNodes.CommandLine
