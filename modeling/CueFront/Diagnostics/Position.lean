import CueFront.Decimal

/-!
# Positions

A position line names a place in a file: four spaces, a path, a colon, the line, a colon,
the column.  The path is any byte string and may hold colons itself, so `Position.scan?`
reads the line from its end.  Both numbers count from one and fit a signed 32 bit word.
-/

namespace CueFront

namespace Diagnostics

/-- A place in a file. -/
structure Position where
  /-- The line, counted from one. -/
  line : Nat
  /-- The column, counted from one. -/
  column : Nat
deriving DecidableEq, Repr

namespace Position

/-- The largest line or column. -/
def limit : Nat := 2147483647

/-- Reads a line or column: a numeral between one and the limit. -/
def readOrdinal? (text : Bytes) : Option Nat :=
  (Decimal.readUpTo? limit text).filter (0 < ·)

/-- The indentation of a position line. -/
def indent : Bytes := List.replicate 4 Byte.space

/-- Reads a position line from its end. -/
def scan? (line : Bytes) : Option Position :=
  if indent.isPrefixOf line then do
    let (front, column) ← Bytes.splitLast? Byte.colon (line.drop indent.length)
    let (_, row) ← Bytes.splitLast? Byte.colon front
    some ⟨← readOrdinal? row, ← readOrdinal? column⟩
  else none

end Position

end Diagnostics

end CueFront
