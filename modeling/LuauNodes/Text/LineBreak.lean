/-!
# Line breaks

A line ends with a line feed, a carriage return, or the two together.  Text from
a file has every one of them written as a line feed.
-/

namespace LuauNodes.Text

/-- Writes every line break as a line feed; `done` holds what is written, the last character
first. -/
def unifyFrom (done : List Char) : List Char → List Char
  | '\r' :: '\n' :: rest => unifyFrom ('\n' :: done) rest
  | '\r' :: rest => unifyFrom ('\n' :: done) rest
  | c :: rest => unifyFrom (c :: done) rest
  | [] => done.reverse

/-- Writes every line break as a line feed. -/
def unifyLineBreaks (text : List Char) : List Char := unifyFrom [] text

end LuauNodes.Text
