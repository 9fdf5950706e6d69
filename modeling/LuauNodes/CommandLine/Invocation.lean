import LuauNodes.CommandLine.Parse

/-!
# Invocations

What a command line asks the program to do.  There are two commands: one inspects
a saved graph, the other lists the kinds of nodes.
-/

namespace LuauNodes.CommandLine

/-- How a graph is to be inspected. -/
structure Inspection where
  path : String
  document : Option String
  node : Option String
  complete : Option String
  json : Bool

/-- What the program is asked to do. -/
inductive Command where
  | inspect (inspection : Inspection)
  | kinds (json : Bool)

/-- What a command line means. -/
inductive Invocation where
  | run (verbose : Bool) (command : Command)
  | help (program : String)
  | refused (program : String) (fault : UsageFault)

/-- The name of the program. -/
def program : String := "lvs"

/-- The option that asks for help. -/
def helpOption : OptionForm := ⟨["-h", "--help"], .help, false⟩

/-- The option that asks for JSON. -/
def jsonOption : OptionForm := ⟨["--json"], .json, false⟩

/-- The name of the command that inspects a graph. -/
def inspectName : String := "inspect"

/-- The name of the command that lists the kinds of nodes. -/
def kindsName : String := "kinds"

/-- The name of the argument that is a command. -/
def commandName : String := "command"

/-- The names of the commands. -/
def commandNames : List String := [inspectName, kindsName]

/-- What the program knows before a command. -/
def programForm : CommandForm :=
  ⟨program, [helpOption, ⟨["-v", "--verbose"], .verbose, false⟩],
    some (.command commandName commandNames)⟩

/-- What the command that inspects a graph knows. -/
def inspectForm : CommandForm :=
  ⟨program ++ " " ++ inspectName,
    [helpOption, ⟨["--document"], .document, true⟩, ⟨["--node"], .node, true⟩,
      ⟨["--complete"], .complete, true⟩, jsonOption],
    some (.word "graph")⟩

/-- What the command that lists the kinds of nodes knows. -/
def kindsForm : CommandForm := ⟨program ++ " " ++ kindsName, [helpOption, jsonOption], none⟩

namespace Inspection

/-- The node whose surroundings are asked for; an empty name asks for none. -/
def asked? (inspection : Inspection) : Option String :=
  inspection.node.filter fun node => !node.isEmpty

end Inspection

/-- An invocation of a command, once everything on its line is read. -/
def settle (verbose : Bool) (extras : List String) (command : Command) : Invocation :=
  if !extras.isEmpty then .refused program (.unrecognized extras)
  else
    match command with
    | .inspect inspection =>
      if inspection.complete.isSome && inspection.asked?.isNone then
        .refused program .completeWithoutNode
      else .run verbose command
    | .kinds _ => .run verbose command

/-- What the line of the command that inspects a graph means. -/
def ofInspect (outer : Parsed) (words : List String) : Invocation :=
  match read inspectForm words with
  | .error fault => .refused inspectForm.program fault
  | .ok parsed =>
    if parsed.has .help then .help inspectForm.program
    else
      match parsed.found with
      | some [path] =>
        settle (outer.has .verbose) (outer.extras ++ parsed.extras)
          (.inspect ⟨path, parsed.value? .document, parsed.value? .node,
            parsed.value? .complete, parsed.has .json⟩)
      | _ => .refused inspectForm.program (.missing "graph")

/-- What the line of the command that lists the kinds of nodes means. -/
def ofKinds (outer : Parsed) (words : List String) : Invocation :=
  match read kindsForm words with
  | .error fault => .refused kindsForm.program fault
  | .ok parsed =>
    if parsed.has .help then .help kindsForm.program
    else
      settle (outer.has .verbose) (outer.extras ++ parsed.extras) (.kinds (parsed.has .json))

/-- What a command line means. -/
def invocation (words : List String) : Invocation :=
  match read programForm words with
  | .error fault => .refused program fault
  | .ok parsed =>
    if parsed.has .help then .help program
    else
      match parsed.found with
      | some (name :: rest) =>
        if name == inspectName then ofInspect parsed rest
        else if name == kindsName then ofKinds parsed rest
        else .refused program (.invalidChoice commandName name commandNames)
      | _ => .refused program (.missing commandName)

end LuauNodes.CommandLine
