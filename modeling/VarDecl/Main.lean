/-
The program: fetches the file that the arguments name, lets `CommandLine.run` decide everything, times it and prints.
-/
import VarDecl.CommandLine.Duration
import VarDecl.CommandLine.Run

namespace VarDecl.CommandLine

/-- the bytes of a file, or why they cannot be read -/
def readFile (path : Text) : IO (Except FileError ByteArray) := do
  try
    return .ok (← IO.FS.readBinFile (String.ofList path))
  catch e =>
    match e with
    | .noFileOrDirectory .. => return .error .missing
    | .inappropriateType .. => return .error .directory
    | e => return .error (.other (toString e).toList)

/-- the file that the arguments name, as the only one there is -/
def fetchFiles (arguments : List Text) : IO (Text → Except FileError ByteArray) := do
  match Request.ofArguments arguments with
  | .ok (.read ⟨_, _, .file path⟩) =>
    let content ← readFile path
    return fun _ => content
  | _ => return fun _ => .error .missing

end VarDecl.CommandLine

open VarDecl.CommandLine in
def main (arguments : List String) : IO UInt32 := do
  let arguments := arguments.map String.toList
  let files ← fetchFiles arguments
  let started ← IO.monoNanosNow
  let outcome ← IO.lazyPure fun _ => run files arguments
  let finished ← IO.monoNanosNow
  (← IO.getStdout).putStr (String.ofList (outcome.stdout (duration (finished - started))))
  (← IO.getStderr).putStr (String.ofList outcome.stderr)
  return UInt32.ofNat outcome.exitCode
