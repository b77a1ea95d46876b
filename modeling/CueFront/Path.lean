import CueFront.Bytes

/-!
# Paths

A path is kept as it was written.  Joining and making absolute work on the text, without
looking at a file system and without removing anything.  Two spellings are the same path
(`Path.same`) when they have the same parts: repeated slashes do not count, a slash at the
end does, and dots stay as they are.
-/

namespace CueFront

namespace Path

/-- Whether the path starts at the root. -/
def isAbsolute (path : Bytes) : Bool := path.head? == some Byte.slash

/-- Whether the path ends with a name, and not with a slash. -/
def endsWithName (path : Bytes) : Bool :=
  match path.getLast? with
  | none => false
  | some b => b != Byte.slash

/-- The path `name` as seen from the directory `directory`. -/
def join (directory name : Bytes) : Bytes :=
  if isAbsolute name || directory.isEmpty then name
  else if endsWithName directory then directory ++ Byte.slash :: name
  else directory ++ name

/-- The path as seen from the root, given the working directory if there is one.  The empty
path names nothing and has no such form. -/
def absolute? (workingDirectory : Option Bytes) (path : Bytes) : Option Bytes :=
  if path.isEmpty then none
  else if isAbsolute path then some path
  else workingDirectory.map (join · path)

/-- The names between the slashes of a path, in order. -/
def names (path : Bytes) : List Bytes := (Bytes.splitOn Byte.slash path).filter (!·.isEmpty)

/-- The parts of a path that tell it from other paths. -/
structure Parts where
  /-- Whether it starts at the root. -/
  rooted : Bool
  /-- The names in order. -/
  names : List Bytes
  /-- Whether a slash follows the last name. -/
  trailing : Bool
deriving DecidableEq, Repr

/-- The parts of a path.  A path made of slashes alone is the root and has no trailing part. -/
def parts (path : Bytes) : Parts where
  rooted := isAbsolute path
  names := names path
  trailing := !(names path).isEmpty && !endsWithName path

/-- Whether two spellings are the same path. -/
def same (a b : Bytes) : Bool := parts a == parts b

end Path

end CueFront
