import CueFront.Files

/-!
# Messages

The texts shown for a tool that cannot be used come from a catalog, so that they can be
replaced.  A key without an entry stands for itself, and a fault without an entry is
described by its own message.
-/

namespace CueFront

/-- Texts by key. -/
structure Catalog where
  /-- The entries; the first for a key counts. -/
  entries : List (Bytes × Bytes)
deriving DecidableEq, Repr

namespace Catalog

/-- The key for a tool that is nowhere on the search path. -/
def notFoundKey : Bytes := utf8 "formatter.exeNotFound"

/-- The key for a configured tool that is no executable file. -/
def userPathKey : Bytes := utf8 "formatter.userPathNotFound"

/-- The key for a tool that could not be run. -/
def executeKey : Bytes := utf8 "formatter.cueExecuteError"

/-- The built-in texts. -/
def builtIn : Catalog where
  entries :=
    [(notFoundKey, utf8 ("The cue executable could not be found in PATH. Install cue or " ++
        "configure the path to the executable.")),
      (userPathKey, utf8 "The configured cue executable does not exist or is not executable."),
      (executeKey, utf8 "Error while executing cue.")]

/-- The text of a key. -/
def get (catalog : Catalog) (key : Bytes) : Bytes := (catalog.entries.lookup key).getD key

/-- The catalog with some texts replaced. -/
def merge (catalog : Catalog) (entries : List (Bytes × Bytes)) : Catalog :=
  ⟨entries.reverse ++ catalog.entries⟩

/-- What to tell people about a fault. -/
def describe (catalog : Catalog) (fault : Fault) : Bytes :=
  if fault.code == Fault.executableNotFound then catalog.get notFoundKey
  else if fault.code == Fault.userPathNotFound then catalog.get userPathKey
  else if fault.code == Fault.executeError then catalog.get executeKey
  else fault.message

/-- The catalog with the texts of a file. -/
def load (catalog : Catalog) (files : Files) (path : Bytes) : Except Fault Catalog :=
  match files.messages? path with
  | none => .error
    { category := .input
      message := utf8 "Unable to open message bundle: " ++ path
      code := utf8 "message_bundle_open_failed" }
  | some entries => entries.map catalog.merge

end Catalog

end CueFront
