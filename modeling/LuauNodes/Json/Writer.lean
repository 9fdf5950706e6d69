import LuauNodes.Json.Basic
import LuauNodes.Number.Shortest
import LuauNodes.Text.Digit

/-!
# Writing JSON

Texts are written in ASCII, other characters as escapes of their UTF-16 units.
A value goes on one line with a blank after each comma and colon, or on
indented lines.
-/

namespace LuauNodes.Json

open LuauNodes.Text

/-- A UTF-16 unit as an escape. -/
def unitEscape (unit : Nat) : String := "\\u" ++ hexText 4 unit

/-- One character of a text: the short escapes, plain ASCII, or escapes of its units. -/
def charText (c : Char) : String :=
  if c == '"' then "\\\""
  else if c == '\\' then "\\\\"
  else if c == '\n' then "\\n"
  else if c == '\r' then "\\r"
  else if c == '\t' then "\\t"
  else if c.toNat = 8 then "\\b"
  else if c.toNat = 12 then "\\f"
  else if 32 ≤ c.toNat && c.toNat < 127 then String.singleton c
  else if c.toNat < 0x10000 then unitEscape c.toNat
  else
    let offset := c.toNat - 0x10000
    unitEscape (0xd800 + offset / 0x400) ++ unitEscape (0xdc00 + offset % 0x400)

/-- A text between quotes. -/
def quoted (value : String) : String :=
  "\"" ++ String.join (value.toList.map charText) ++ "\""

mutual

/-- A value on one line. -/
def compact : Json → String
  | null => "null"
  | bool value => if value then "true" else "false"
  | int value => toString value
  | float value => value.toText
  | text value => quoted value
  | list items => "[" ++ compactItems items ++ "]"
  | object entries => "\x7b" ++ compactEntries entries ++ "\x7d"

/-- Items on one line. -/
def compactItems : List Json → String
  | [] => ""
  | [item] => compact item
  | item :: rest => compact item ++ ", " ++ compactItems rest

/-- Entries on one line. -/
def compactEntries : List (String × Json) → String
  | [] => ""
  | [(name, value)] => quoted name ++ ": " ++ compact value
  | (name, value) :: rest => quoted name ++ ": " ++ compact value ++ ", " ++ compactEntries rest

end

/-- A line break and the blanks of a nesting level. -/
def lineBreak (level : Nat) : String := "\n" ++ String.ofList (List.replicate (2 * level) ' ')

mutual

/-- A value over several lines, indented by two blanks a level. -/
def indented (level : Nat) : Json → String
  | null => "null"
  | bool value => if value then "true" else "false"
  | int value => toString value
  | float value => value.toText
  | text value => quoted value
  | list [] => "[]"
  | list (first :: rest) =>
    "[" ++ lineBreak (level + 1) ++ indentedItems (level + 1) (first :: rest) ++
      lineBreak level ++ "]"
  | object [] => "\x7b\x7d"
  | object (first :: rest) =>
    "\x7b" ++ lineBreak (level + 1) ++ indentedEntries (level + 1) (first :: rest) ++
      lineBreak level ++ "\x7d"

/-- Items on lines of their own. -/
def indentedItems (level : Nat) : List Json → String
  | [] => ""
  | [item] => indented level item
  | item :: rest => indented level item ++ "," ++ lineBreak level ++ indentedItems level rest

/-- Entries on lines of their own. -/
def indentedEntries (level : Nat) : List (String × Json) → String
  | [] => ""
  | [(name, value)] => quoted name ++ ": " ++ indented level value
  | (name, value) :: rest =>
    quoted name ++ ": " ++ indented level value ++ "," ++ lineBreak level ++
      indentedEntries level rest

end

end LuauNodes.Json
