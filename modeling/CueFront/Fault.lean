import CueFront.Bytes

/-!
# Faults

What went wrong, in the form in which it is shown: a category, a code that programs can
compare, a message, and where there is more to say a hint and a cause.  Each part of the
front end has its own type of errors and says once how they are shown as faults.
-/

namespace CueFront

/-- Which part of the work failed. -/
inductive Category where
  /-- The request or its files. -/
  | input
  /-- Finding the tool. -/
  | resolution
  /-- Running the tool. -/
  | execution
  /-- A defect of the front end. -/
  | internal
deriving DecidableEq, Repr

namespace Category

/-- The categories in order. -/
def all : List Category := [.input, .resolution, .execution, .internal]

/-- The name of a category. -/
def name : Category → Bytes
  | .input => utf8 "input"
  | .resolution => utf8 "resolution"
  | .execution => utf8 "execution"
  | .internal => utf8 "internal"

end Category

/-- A failure as it is shown. -/
structure Fault where
  /-- What failed. -/
  category : Category
  /-- What happened, for people. -/
  message : Bytes
  /-- What happened, for programs. -/
  code : Bytes := utf8 "unknown_error"
  /-- What to do about it. -/
  hint : Bytes := []
  /-- What the failure comes from. -/
  cause : Bytes := []
deriving DecidableEq, Repr

namespace Fault

/-! ## The codes of an unusable tool -/

/-- The tool is nowhere on the search path. -/
def executableNotFound : Bytes := utf8 "executable_not_found"

/-- The configured tool is no executable file. -/
def userPathNotFound : Bytes := utf8 "user_path_not_found"

/-- The tool could not be run. -/
def executeError : Bytes := utf8 "execute_error"

/-- Whether the fault says that the tool cannot be used. -/
def toolUnavailable (fault : Fault) : Bool :=
  fault.code == executableNotFound || fault.code == userPathNotFound || fault.code == executeError

end Fault

/-- The name at a place in a list of names, counted from zero; `unknown` outside the list. -/
def nameAt (names : List Bytes) (place : Int) : Bytes :=
  match place with
  | .ofNat n => names.getD n (utf8 "unknown")
  | .negSucc _ => utf8 "unknown"

end CueFront
