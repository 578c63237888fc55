import Unmask.CommandLine.Run

/-!
The program: arguments, files and standard input in, text and an exit code out.
-/

namespace Unmask.Main

/-- The fault that the operating system answered with. -/
def openFault : IO.Error → OpenFault
  | .inappropriateType .. => .notDirectory
  | .permissionDenied .. => .denied
  | .invalidArgument .. => .nameTooLong
  | _ => .notFound

def openPath (path : Text) : IO (Except OpenFault Source) := do
  if '\x00' ∈ path then return .error .nulInName
  try
    let content ← IO.FS.readBinFile (String.ofList path)
    return .ok (.bytes content.toList)
  catch
    | .inappropriateType _ 21 _ => return .ok .directory
    | e => return .error (openFault e)

/-- Opens just the paths that were tried before. -/
def openFrom (tried : List (Text × Except OpenFault Source)) : Opener := fun path =>
  (tried.lookup path).getD (.error .notFound)

end Unmask.Main

open Unmask

def main (args : List String) : IO UInt32 := do
  let args := args.map String.toList
  let mut tried := []
  for path in CommandLine.pathsOf args do
    tried := (path, ← Main.openPath path) :: tried
  let stdin ← if CommandLine.readsInput args then (← IO.getStdin).readBinToEnd else pure .empty
  let outcome := CommandLine.runArguments (Main.openFrom tried) (.bytes stdin.toList) args
  (← IO.getStdout).putStr (String.ofList outcome.stdout)
  (← IO.getStderr).putStr (String.ofList outcome.stderr)
  return outcome.exitCode.toUInt32
