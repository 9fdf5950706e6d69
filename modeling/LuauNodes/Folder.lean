/-!
# Folders

The files of a working directory by their paths from it.  A path is followed by
its words alone: an empty word and a single dot stay in place, and two dots take
back the word before them.  A path that starts at the root or leaves the folder
leads to no file.
-/

namespace LuauNodes

/-- The files of a folder. -/
structure Folder where
  files : List (String × List UInt8)
  deriving Inhabited

namespace Folder

/-- Follows the words of a path; `done` holds the words so far, the last one first. -/
def follow (done : List String) : List String → Option (List String)
  | [] => some done.reverse
  | word :: rest =>
    if word.isEmpty || word == "." then follow done rest
    else if word == ".." then
      match done with
      | [] => none
      | _ :: before => follow before rest
    else follow (word :: done) rest

/-- The words of a path from the folder on. -/
def wordsOf (path : String) : Option (List String) :=
  if path.startsWith "/" then none else follow [] (path.splitOn "/")

/-- The bytes of the file that a path leads to. -/
def read? (folder : Folder) (path : String) : Option (List UInt8) :=
  (wordsOf path).bind fun words =>
    (folder.files.find? fun file => wordsOf file.1 == some words).map (·.2)

end Folder

end LuauNodes
