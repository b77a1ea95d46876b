import CueFront.Files
import CueFront.Path

/-!
# Finding the tool

A configured path is used or refused; it never falls back to the search path.  Without one
the entries of the search path are tried in order.  Empty entries are passed over: they
would mean the working directory, and tools are never run from there by accident.
-/

namespace CueFront

/-- Why no tool was found. -/
inductive SearchError where
  /-- No entry of the search path has the tool. -/
  | notFound (tool : Bytes)
  /-- The configured path leads to no executable file. -/
  | notExecutable (path : Bytes)
deriving DecidableEq, Repr

namespace SearchError

/-- The error as it is shown. -/
def toFault : SearchError → Fault
  | .notFound tool =>
    { category := .resolution
      message := utf8 "Executable '" ++ tool ++ utf8 "' not found in PATH."
      code := Fault.executableNotFound
      hint := utf8 "Install " ++ tool ++ utf8 " or configure the path to the executable." }
  | .notExecutable path =>
    { category := .resolution
      message := utf8 "Configured executable is not an executable file: " ++ path
      code := Fault.userPathNotFound
      hint := utf8 "Check the configured executable path." }

end SearchError

namespace Search

/-- The directories of a search path. -/
def directories (searchPath : Bytes) : List Bytes :=
  (Bytes.splitOn Byte.colon searchPath).filter (!·.isEmpty)

/-- A path as seen from the root.  Where that cannot be told the path stays as it is: the empty
path does, and a relative one if the working directory is missing. -/
def absolute (files : Files) (path : Bytes) : Bytes :=
  (Path.absolute? files.workingDirectory path).getD path

/-- The first directory of a search path that has the tool decides. -/
def find (files : Files) (searchPath tool : Bytes) : Except SearchError Bytes :=
  match ((directories searchPath).map (Path.join · tool)).find? files.isExecutable with
  | some candidate => .ok (absolute files candidate)
  | none => .error (.notFound tool)

/-- The path of the tool: the configured one, or the first on the search path. -/
def resolve (files : Files) (searchPath configured tool : Bytes) :
    Logged (Except SearchError Bytes) :=
  if configured.isEmpty then
    .note (Log.debug (utf8 "ExecutableResolver: searching PATH for " ++ tool))
      (find files searchPath tool)
  else
    .quiet (if files.isExecutable configured then .ok (absolute files configured)
      else .error (.notExecutable configured))

/-- The path of the tool where none may be configured.  No path counts as an empty one. -/
def locate (files : Files) (searchPath : Bytes) (configured : Option Bytes) (tool : Bytes) :
    Logged (Except SearchError Bytes) :=
  resolve files searchPath (configured.getD []) tool

end Search

end CueFront
