import Fieldbus.Plant.Utility

/-!
# The program

* `main`: reads the environment and the file that the arguments name, and prints what becomes of
  them.
-/

namespace Fieldbus

/-- The settings of the environment that the program looks at. -/
def readEnvironment : IO (List (String × String)) := do
  let mut env := []
  for name in ["EZMB_NORTH_URL", "EZMB_SOUTH_URL"] do
    if let some value ← IO.getEnv name then env := (name, value) :: env
  return env

/-- The content of a file, if it can be read. -/
def readContent (path : String) : IO (Option Bytes) := do
  try
    let content ← IO.FS.readBinFile path
    return some content.toList
  catch _ => return none

end Fieldbus

open Fieldbus in
/-- Runs the operator's utility. -/
def main (args : List String) : IO UInt32 := do
  let env ← readEnvironment
  let content ← match Utility.fileOf? env args with
    | some path => readContent path
    | none => pure none
  let result := Utility.run env (fun _ => content) args
  (← IO.getStdout).putStr (Utility.outputText result)
  (← IO.getStderr).putStr (Utility.errorText result)
  return Utility.exitCode result
