import LuauNodes.Text.Blank
import LuauNodes.Text.Digit

/-!
# Quoted text

Text as it is shown in quotes inside a message.  The quotes are single ones,
unless the text has single quotes and no double ones.  What could not be seen is
written by its code point.
-/

namespace LuauNodes.Text

/-- Control and format characters, and those for private use. -/
def unseenRanges : List (Nat × Nat) :=
  [(0x0, 0x1f), (0x7f, 0x9f), (0xad, 0xad), (0x600, 0x605), (0x61c, 0x61c), (0x6dd, 0x6dd),
   (0x70f, 0x70f), (0x890, 0x891), (0x8e2, 0x8e2), (0x180e, 0x180e), (0x200b, 0x200f),
   (0x202a, 0x202e), (0x2060, 0x2064), (0x2066, 0x206f), (0xe000, 0xf8ff), (0xfeff, 0xfeff),
   (0xfff9, 0xfffb), (0x110bd, 0x110bd), (0x110cd, 0x110cd), (0x13430, 0x1343f),
   (0x1bca0, 0x1bca3), (0x1d173, 0x1d17a), (0xe0001, 0xe0001), (0xe0020, 0xe007f),
   (0xf0000, 0xffffd), (0x100000, 0x10fffd)]

/-- The character can be seen; of the blank ones only the space counts as seen. -/
def isSeen (c : Char) : Bool :=
  c == ' ' || !isBlank c && !inRanges unseenRanges c.toNat

/-- A character that cannot be seen, by its code point. -/
def codePointEscape (code : Nat) : String :=
  if code < 0x100 then "\\x" ++ hexText 2 code
  else if code < 0x10000 then "\\u" ++ hexText 4 code
  else "\\U" ++ hexText 8 code

/-- A character inside quotes of the given sort. -/
def quotedChar (quote c : Char) : String :=
  if c == quote || c == '\\' then String.ofList ['\\', c]
  else
    match c with
    | '\n' => "\\n"
    | '\r' => "\\r"
    | '\t' => "\\t"
    | _ => if isSeen c then String.singleton c else codePointEscape c.toNat

/-- The quotes around a text. -/
def quoteFor (text : List Char) : Char :=
  if text.contains '\'' && !text.contains '"' then '"' else '\''

/-- A text in quotes. -/
def inQuotes (text : String) : String :=
  let quote := quoteFor text.toList
  String.singleton quote ++ String.join (text.toList.map (quotedChar quote)) ++
    String.singleton quote

/-- Texts in quotes with commas between them. -/
def allInQuotes (texts : List String) : String :=
  String.intercalate ", " (texts.map inQuotes)

end LuauNodes.Text
