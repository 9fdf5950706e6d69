import LuauNodes.Json.Writer
import LuauNodes.Registry.Notice
import LuauNodes.Text.Quoted

/-!
# Lines of the log

A notice becomes a line of the log if it is at least as important as the level
asks.  A line is either a JSON object or plain text with the details in the order
of their names; what depends on the clock is left to whoever writes the line.
-/

namespace LuauNodes

namespace Log

/-- The notices that a level lets through. -/
def atLeast (level : Level) (notices : List Notice) : List Notice :=
  notices.filter fun notice => level.rank ≤ notice.level.rank

/-- The details of a notice in a JSON line; that of a failure says that there is a cause. -/
def details (notice : Notice) : List (String × Json) :=
  match notice with
  | .listenerFailed _ => notice.fields ++ [("exc_info", .bool true)]
  | _ => notice.fields

/-- A notice as a JSON object. -/
def object (notice : Notice) : Json :=
  .object (details notice ++
    [("event", .text notice.event), ("level", .text notice.level.tag)])

/-- A detail as plain text. -/
def detailText : Json → String
  | .null => "None"
  | .bool true => "True"
  | .bool false => "False"
  | .text value => value
  | .list values =>
    "[" ++ Text.allInQuotes (values.filterMap fun value =>
      match value with
      | .text word => some word
      | _ => none) ++ "]"
  | value => value.compact

/-- A level in square brackets, as wide as the widest one. -/
def levelText (level : Level) : String :=
  "[" ++ level.tag ++ String.ofList (List.replicate (9 - level.tag.length) ' ') ++ "]"

/-- A notice as plain text, without the time in front. -/
def text (notice : Notice) : String :=
  let sorted := notice.fields.mergeSort fun left right => left.1 ≤ right.1
  let words := sorted.map fun (name, value) => name ++ "=" ++ detailText value
  String.intercalate " " (levelText notice.level :: notice.event :: words)

end Log

end LuauNodes
