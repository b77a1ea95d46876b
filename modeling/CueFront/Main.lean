import CueFront.Host.Workspace
import CueFront.Program
import CueFront.SessionTag

/-!
# The command line

The program runs on the built-in host.  The files that its arguments name are copied there
first, so that they can be formatted, checked or executed, and standard input is read only if
the request needs it.  All that is decided is decided by `Program.plan`.
-/

namespace CueFront

/-- A workspace with a copy of every file that an argument names. -/
def copyNamed : List String → Host.Workspace → IO Host.Workspace
  | [], workspace => return workspace
  | path :: paths, workspace => do
    match ← (IO.FS.readBinFile path).toBaseIO with
    | .ok bytes =>
      copyNamed paths (workspace.change
        { path := utf8 path, content := .text bytes.toList, mode := some 0o755 })
    | .error _ => copyNamed paths workspace

/-- Runs the program once; the result is its exit code. -/
def runProgram (arguments : List String) : IO UInt32 := do
  let workspace ← copyNamed arguments Host.Workspace.fresh
  let around := workspace.surroundings
  let words := arguments.map utf8
  let input ←
    if Program.readsInput around.files words then do
      let bytes ← (← IO.getStdin).readBinToEnd
      pure bytes.toList
    else pure []
  let tag := SessionTag.ofNumber (← IO.rand 0 (Nat.pow 16 SessionTag.length - 1))
  let (output, _) := workspace.carryOut (.fixed false) (Program.plan around tag words input)
  (← IO.getStdout).write ⟨output.stdout.toArray⟩
  (← IO.getStderr).write ⟨output.stderr.toArray⟩
  return UInt32.ofNat output.exit

end CueFront

/-- Formats or checks as the arguments say. -/
def main (arguments : List String) : IO UInt32 := CueFront.runProgram arguments
