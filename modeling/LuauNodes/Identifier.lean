import LuauNodes.Text.WordChar

/-!
# Identifiers

Which texts can name a symbol: an ASCII letter or underscore followed by ASCII
letters, digits and underscores, and not a reserved word.  One line break at the
end is passed over.  The module also lists the names that the language
environment provides, which need no declaration.
-/

namespace LuauNodes

open LuauNodes.Text

/-- The words that can never name a symbol. -/
def reservedWords : List String :=
  ["and", "break", "continue", "do", "else", "elseif", "end", "false", "for", "function", "if",
   "in", "local", "nil", "not", "or", "repeat", "return", "then", "true", "until", "while"]

/-- The names that are visible everywhere without a declaration. -/
def environmentNames : List String :=
  ["assert", "bit32", "buffer", "coroutine", "debug", "error", "getmetatable", "ipairs", "math",
   "next", "os", "pairs", "pcall", "print", "rawequal", "rawget", "rawlen", "rawset", "require",
   "select", "setmetatable", "string", "table", "tonumber", "tostring", "type", "typeof",
   "unpack", "utf8", "vector", "warn", "xpcall", "game", "workspace", "script", "task", "tick",
   "time", "wait", "Instance", "Enum", "Vector3", "Vector2", "CFrame", "Color3", "UDim", "UDim2",
   "BrickColor", "TweenInfo"]

/-- The text is a reserved word. -/
def isReserved (text : String) : Bool := reservedWords.contains text

/-- The characters of an identifier without a line break. -/
def isPlainIdentifier : List Char → Bool
  | [] => false
  | first :: rest => isNameStart first && rest.all isNameChar

/-- The text has the form of an identifier, possibly followed by one line break. -/
def isIdentifier (text : String) : Bool :=
  let characters := text.toList
  isPlainIdentifier characters ||
    characters.getLast? == some '\n' && isPlainIdentifier characters.dropLast

/-- The text may name a declared symbol. -/
def isDeclarableName (text : String) : Bool :=
  isIdentifier text && !isReserved text

end LuauNodes
