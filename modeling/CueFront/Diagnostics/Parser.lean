import CueFront.Diagnostics.Blocks
import CueFront.Diagnostics.Position
import CueFront.Diagnostics.Record

/-!
# Reading the tool's report

A report is a text in blocks.  Below each header every line that the matcher accepts is one
problem, and the header is its message.  The other lines are passed over.
-/

namespace CueFront

namespace Diagnostics

/-- Decides whether a line names a position, and which. -/
abbrev Matcher := Bytes → Option Position

/-- How reports are read. -/
structure Parser where
  /-- Recognises the position lines. -/
  matcher : Matcher := Position.scan?
  /-- The indentation that keeps a line in its block. -/
  indent : Bytes := blockIndent

namespace Parser

/-- The blocks of a report. -/
def group (parser : Parser) (report : Bytes) : List (Block Bytes) :=
  groupLines parser.indent report

/-- The problems of one block. -/
def recordsOfBlock (parser : Parser) (file : Bytes) (block : Block Bytes) : List Record :=
  block.body.filterMap fun line =>
    (parser.matcher line).map fun position =>
      { file, line := position.line, column := position.column, message := block.header }

/-- The problems of a report about `file`. -/
def parse (parser : Parser) (report file : Bytes) : List Record :=
  (parser.group report).flatMap (parser.recordsOfBlock file)

end Parser

end Diagnostics

end CueFront
