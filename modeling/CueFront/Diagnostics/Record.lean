import CueFront.Path

/-!
# Records

A record is one reported problem: the file that was checked, a place in it, and the header
of the block that named the place.  The file is the one the caller asked about, never a path
the tool printed.
-/

namespace CueFront

namespace Diagnostics

/-- One reported problem. -/
structure Record where
  /-- The file as the caller named it. -/
  file : Bytes := []
  /-- The line. -/
  line : Int := 1
  /-- The column. -/
  column : Int := 1
  /-- What is wrong. -/
  message : Bytes := []
deriving DecidableEq, Repr

namespace Record

/-- Whether two records report the same problem.  The files are compared as paths. -/
def same (a b : Record) : Bool :=
  Path.same a.file b.file && a.line == b.line && a.column == b.column && a.message == b.message

end Record

end Diagnostics

end CueFront
