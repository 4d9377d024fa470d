import Reshape.CommandLine

/-!
# The program

Reads what the arguments ask for, and writes how the run ends.
-/

namespace Reshape.Invocation

/-- The failure behind an error of the system. -/
def openFailure : IO.Error → OpenFailure
  | .inappropriateType .. => .notFolder
  | .invalidArgument .. => .nameTooLong
  | .permissionDenied .. => .denied
  | _ => .absent

/-- Opens a file and reads it. -/
def openFile (name : String) : IO (Except OpenFailure Source) := do
  match ← (IO.FS.Handle.mk name .read).toBaseIO with
  | .error e => return .error (openFailure e)
  | .ok handle =>
    match ← handle.readToEnd.toBaseIO with
    | .ok content => return .ok (.text content)
    | .error _ => return .ok .unreadable

/-- Reads the input of the program. -/
def readInput : IO Source := do
  match ← (do (← IO.getStdin).readToEnd : IO String).toBaseIO with
  | .ok content => return .text content
  | .error _ => return .unreadable

/-- Runs the program on the files and streams of the system. -/
def runIO (arguments : List String) : IO Ending := do
  match ofArguments? arguments with
  | some { file := some name, .. } =>
    let opened ← openFile name
    return run arguments .unreadable fun _ => opened
  | some { file := none, .. } =>
    return run arguments (← readInput) fun _ => .error .absent
  | none => return run arguments .unreadable fun _ => .error .absent

end Reshape.Invocation

/-- The program. -/
def main (arguments : List String) : IO UInt32 := do
  let ending ← Reshape.Invocation.runIO arguments
  (← IO.getStdout).putStr ending.output
  if let some e := ending.error then (← IO.getStderr).putStrLn e
  return ending.status.toUInt32
