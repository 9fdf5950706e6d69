import LuauNodes.Graph.Basic
import LuauNodes.Json.Reader
import LuauNodes.Text.LineBreak
import LuauNodes.Text.Utf8

/-!
# Loading graphs

A graph from the bytes of a file: UTF-8, JSON, and then the form of a graph.  The
first of these that fails says why.
-/

namespace LuauNodes

/-- Why a file is not loaded. -/
inductive LoadFault where
  /-- There is no such file, or it does not hold a graph. -/
  | problem (problem : Problem)
  /-- The containers in the file are nested too deeply to be followed. -/
  | tooDeep (container : String)
  /-- A number in the file has too many digits to be read. -/
  | tooManyDigits (count : Nat)

/-- The wording of a fault. -/
def LoadFault.message : LoadFault → String
  | problem cause => cause.message
  | tooDeep container => (Json.ReadFault.tooDeep container).message []
  | tooManyDigits count => (Json.ReadFault.tooManyDigits count).message []

namespace Graph

/-- The JSON value that the bytes of a file spell. -/
def readJson (path : String) (bytes : List UInt8) : Except LoadFault Json :=
  match Text.Utf8.decode bytes with
  | .error fault => .error (.problem (.graphInvalidJson path fault.message))
  | .ok characters =>
    let document := Text.unifyLineBreaks characters
    match Json.read document with
    | .ok value => .ok value
    | .error (.tooDeep container) => .error (.tooDeep container)
    | .error (.tooManyDigits count) => .error (.tooManyDigits count)
    | .error fault => .error (.problem (.graphInvalidJson path (fault.message document)))

/-- The graph in a file with a path, if there is one. -/
def load (path : String) (bytes : Option (List UInt8)) : Except LoadFault Graph :=
  match bytes with
  | none => .error (.problem (.graphFileNotFound path))
  | some bytes =>
    match readJson path bytes with
    | .error fault => .error fault
    | .ok value =>
      match Graph.ofJson path value with
      | .ok graph => .ok graph
      | .error problem => .error (.problem problem)

end Graph

end LuauNodes
