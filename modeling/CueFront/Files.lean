import CueFront.Path
import CueFront.Settings

/-!
# The file system as the front end sees it

Everything the front end asks a file system is one of these questions.  Rules are stated
for any answers, so they hold on every file system.  Settings files and message bundles are
documents in a syntax of their own; the view answers with what reading them gives, or that
they cannot be opened.
-/

namespace CueFront

/-- The answers of a file system. -/
structure Files where
  /-- The directory that relative paths start from; missing if it was removed. -/
  workingDirectory : Option Bytes
  /-- Whether a path leads to a regular file. -/
  isRegular : Bytes → Bool
  /-- Whether a path leads to a regular file that may be executed. -/
  isExecutable : Bytes → Bool
  /-- The contents of a file, if it can be opened. -/
  contents? : Bytes → Option Bytes
  /-- The settings in a file, if it can be opened. -/
  settings? : Bytes → Option (Except Fault Settings)
  /-- The messages in a file, if it can be opened. -/
  messages? : Bytes → Option (Except Fault (List (Bytes × Bytes)))
  /-- The working directory is told as a path from the root. -/
  rooted : workingDirectory.all Path.isAbsolute = true := by rfl

/-- A file system without files, seen from the directory `/work`. -/
def Files.bare : Files where
  workingDirectory := some (utf8 "/work")
  isRegular _ := false
  isExecutable _ := false
  contents? _ := none
  settings? _ := none
  messages? _ := none

end CueFront
