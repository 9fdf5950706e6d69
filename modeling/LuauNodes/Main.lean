import LuauNodes.CommandLine.Run

/-!
# Running the program

Reads the file that the command line names, and prints what the program has to
say.
-/

namespace LuauNodes

/-- The bytes of the file with a path, if it can be read. -/
def readFile (path : String) : IO (Option (List UInt8)) := do
  try
    let bytes ← IO.FS.readBinFile path
    return some bytes.toList
  catch _ => return none

/-- A number of milliseconds in seconds, with four places. -/
def secondsText (milliseconds : Nat) : String :=
  let fraction := toString (milliseconds % 1000)
  let zeros := String.ofList (List.replicate (3 - fraction.length) '0')
  s!"{milliseconds / 1000}." ++ zeros ++ fraction ++ "0"

end LuauNodes

open LuauNodes in
/-- Runs the program on the words of the command line. -/
def main (words : List String) : IO UInt32 := do
  let start ← IO.monoMsNow
  let invocation := CommandLine.invocation words
  let bytes ← match invocation.path? with
    | some path => readFile path
    | none => pure none
  let ending := invocation.carryOut bytes
  (← IO.getStdout).putStr ending.output
  let stop ← IO.monoMsNow
  (← IO.getStderr).putStr (ending.errors (CommandLine.timeLine (secondsText (stop - start))))
  return UInt32.ofNat ending.status
