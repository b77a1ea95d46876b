import CueFront.Bytes

/-!
# Lines

`segments` cuts a text at every line feed.  `splitLines` is the reading of the tool's
output: a line ends with a line feed or with a carriage return and a line feed, and empty
lines at the end are dropped.  Only a line that a line feed ends loses its carriage return,
so a text that stops in the middle of a line keeps every byte of it.
-/

namespace CueFront

namespace Diagnostics

/-- The pieces between the line feeds of a text, as a first piece and the others.  Every piece
but the last was ended by a line feed. -/
def segments (text : Bytes) : Bytes × List Bytes :=
  text.foldr (fun b pieces =>
    if b == Byte.lineFeed then ([], pieces.1 :: pieces.2) else (b :: pieces.1, pieces.2)) ([], [])

/-- A terminated line without the carriage return of its line ending. -/
def stripReturn (line : Bytes) : Bytes :=
  if line.getLast? == some Byte.carriageReturn then line.dropLast else line

/-- The lines of the pieces: the terminated ones without their carriage return, the last as
it is. -/
def unterminate (pieces : Bytes × List Bytes) : List Bytes :=
  let all := pieces.1 :: pieces.2
  all.dropLast.map stripReturn ++ all.getLast?.toList

/-- The list without the empty strings at its end. -/
def dropBlankTail (lines : List Bytes) : List Bytes :=
  (lines.reverse.dropWhile List.isEmpty).reverse

/-- The lines of a text. -/
def splitLines (text : Bytes) : List Bytes := dropBlankTail (unterminate (segments text))

end Diagnostics

end CueFront
