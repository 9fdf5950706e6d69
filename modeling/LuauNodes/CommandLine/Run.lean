import LuauNodes.CommandLine.Invocation
import LuauNodes.CommandLine.Report
import LuauNodes.Graph.Analysis
import LuauNodes.Graph.Loading
import LuauNodes.Json.Writer

/-!
# The program

What the program prints and the status it ends with, as a function of the command
line and of the files that it may read.  How long the work took is left to
whoever runs it.
-/

namespace LuauNodes.CommandLine

/-- What is printed on the standard output. -/
inductive Output where
  | lines (lines : List String)
  | json (value : Json)

/-- The text of an output. -/
def Output.text : Output → String
  | lines texts => String.join (texts.map fun line => line ++ "\n")
  | json value => value.indented 0 ++ "\n"

/-- How a run ends. -/
inductive Ending where
  /-- The work is done; the time that it took may be asked for. -/
  | done (output : Output) (timed : Bool)
  /-- The program told how it is used. -/
  | helped (program : String)
  /-- The command line is refused. -/
  | refused (program : String) (fault : UsageFault)
  /-- Something is wrong with the graph or with what was asked about it. -/
  | failed (problem : Problem)
  /-- Something went wrong that nobody foresaw. -/
  | crashed (kind message : String)

/-- The status with which a run ends. -/
def Ending.status : Ending → Nat
  | done _ _ => 0
  | helped _ => 0
  | refused _ _ => 2
  | failed _ => 1
  | crashed _ _ => 1

/-- How a program is used, in one line. -/
def usageLine (program : String) : String := s!"usage: {program} [-h] ..."

/-- What is printed on the standard output. -/
def Ending.output : Ending → String
  | done output _ => output.text
  | helped program => usageLine program ++ "\n"
  | _ => ""

/-- The line that refuses a command line. -/
def refusalLine (program : String) (fault : UsageFault) : String :=
  s!"{program}: error: {fault.message}"

/-- What is printed on the error output, with the given line about the time that the work took. -/
def Ending.errors (time : String) : Ending → String
  | done _ timed => if timed then time else ""
  | helped _ => ""
  | refused program fault => usageLine program ++ "\n" ++ refusalLine program fault ++ "\n"
  | failed problem => coloured .red ("--- ERROR ---\n" ++ problem.message) ++ "\n"
  | crashed kind message =>
    coloured .red "--- UNEXPECTED ERROR ---" ++ "\n" ++
      "This may be a bug in lvs. Please report it.\n" ++ kind ++ ": " ++ message ++ "\n"

/-- The line about the time that the work took. -/
def timeLine (seconds : String) : String :=
  coloured .cyan s!"--- Total Execution Time: {seconds} seconds ---" ++ "\n"

/-! ## Listing the kinds of nodes -/

/-- The kinds of nodes by category. -/
def kindsOutput (asJson : Bool) : Output :=
  if asJson then
    .json (.object (Palette.standard.categories.map fun (category, ids) =>
      (category, .ofTexts ids)))
  else
    .lines (Palette.standard.categories.map fun (category, ids) =>
      coloured .cyan category ++ ": " ++ String.intercalate ", " ids)

/-! ## Inspecting a graph -/

/-- The surroundings of a node of an analysed graph. -/
def surroundings (nodeId : String) (fragment : Option String) : Act Analysis Surroundings := do
  let (vars, functions) ← AnalysisSeat.alone.visible nodeId
  let completions ← fragment.mapM fun text => do
    return (text, ← AnalysisSeat.alone.complete nodeId text none .both)
  return ⟨nodeId, vars, functions, completions⟩

/-- Analyses a graph and looks at what was asked about it. -/
def inspectGraph (inspection : Inspection) :
    Act Analysis (GraphReport × Option Surroundings) := do
  let report ← AnalysisSeat.alone.analyze
  let found ← inspection.asked?.mapM fun nodeId => surroundings nodeId inspection.complete
  return (report, found)

/-- The output about an inspected graph. -/
def inspectionOutput (inspection : Inspection) (report : GraphReport)
    (found : Option Surroundings) : Output :=
  if inspection.json then .json (inspectionJson report found)
  else
    .lines ([s!"--- Inspecting {inspection.path} ---"] ++ reportLines report ++
      ((found.map surroundingsLines).getD []))

/-- The ending that a fault of loading leads to. -/
def Ending.ofLoadFault : LoadFault → Ending
  | .problem cause => .failed cause
  | .tooDeep container => .crashed "RecursionError" (LoadFault.tooDeep container).message
  | .tooManyDigits count => .crashed "ValueError" (LoadFault.tooManyDigits count).message

/-- The ending that a failure of the analysis leads to. -/
def Ending.ofFailure : Failure → Ending
  | .problem cause => .failed cause
  | .tree fault => .crashed "InternalRegistryError" fault.message
  | failure => .crashed "Exception" failure.message

/-- Inspects the graph in a file. -/
def inspect (timed : Bool) (inspection : Inspection) (bytes : Option (List UInt8)) : Ending :=
  match Graph.load inspection.path bytes with
  | .error fault => .ofLoadFault fault
  | .ok graph =>
    let analysis := Analysis.prepare graph
      (inspection.document.getD Analysis.defaultDocument) .standard
    match (analysis.run (inspectGraph inspection)).1 with
    | .error failure => .ofFailure failure
    | .ok (report, found) => .done (inspectionOutput inspection report found) timed

/-- The file that an invocation reads. -/
def Invocation.path? : Invocation → Option String
  | run _ (.inspect inspection) => some inspection.path
  | _ => none

/-- Carries out an invocation, given the bytes of the file that it reads. -/
def Invocation.carryOut (bytes : Option (List UInt8)) : Invocation → Ending
  | run verbose (.kinds asJson) => .done (kindsOutput asJson) verbose
  | run verbose (.inspect inspection) => inspect verbose inspection bytes
  | help program => .helped program
  | refused program fault => .refused program fault

/-- Runs the program on a command line. -/
def run (read? : String → Option (List UInt8)) (words : List String) : Ending :=
  let invocation := invocation words
  invocation.carryOut (invocation.path?.bind read?)

end LuauNodes.CommandLine
