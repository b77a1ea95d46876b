import CueFront.Proofs.Diagnostics.Flat

/-!
# Reports one behind the other

A report whose lines are all ended can be followed by another.  If the first line of the second
lacks the indentation, the problems of both together are those of the first and then those of the
second (`parse_append`): the first line of the second opens a block in either place, and the blank
lines at the end of the first become blocks without problems.
-/

namespace CueFront

namespace Diagnostics

/-- The first line of a text, without the line feed that ends it and a carriage return in front of
that. -/
def firstLine (text : Bytes) : Bytes :=
  let line := text.takeWhile (· != Byte.lineFeed)
  if Byte.lineFeed ∈ text then stripReturn line else line

theorem firstLine_unterminated {line : Bytes} (unbroken : Byte.lineFeed ∉ line) :
    firstLine line = line := by
  rw [firstLine, if_neg unbroken]
  exact Bytes.takeWhile_bne unbroken

theorem firstLine_terminated {line : Bytes} (unbroken : Byte.lineFeed ∉ line) (rest : Bytes) :
    firstLine (line ++ Byte.lineFeed :: rest) = stripReturn line := by
  rw [firstLine, if_pos (by simp), Bytes.takeWhile_bne_append unbroken]

theorem exists_rawLines_eq_cons (text : Bytes) :
    ∃ later, rawLines text = firstLine text :: later := by
  induction text using line_induction with
  | last line unbroken =>
    exact ⟨[], by rw [rawLines_unterminated unbroken, firstLine_unterminated unbroken]⟩
  | ended line rest unbroken ih =>
    exact ⟨rawLines rest, by rw [rawLines_terminated unbroken, firstLine_terminated unbroken]⟩

namespace Parser

variable {parser : Parser} {next : Bytes}

/-- A line without the indentation parts the lines: those behind it are below it and not below the
header of those before it. -/
theorem readBelow_append (unindented : ¬ parser.indent <+: next) (file header : Bytes)
    (lines rest : List Bytes) :
    parser.readBelow file header (lines ++ next :: rest) =
      parser.readBelow file header lines ++ parser.readBelow file next rest := by
  induction lines generalizing header with
  | nil => exact readBelow_cons_of_header unindented file header rest
  | cons line lines ih =>
    rw [List.cons_append]
    by_cases indented : parser.indent <+: line
    · rw [readBelow_cons_of_indented indented, readBelow_cons_of_indented indented, ih,
        List.append_assoc]
    · rw [readBelow_cons_of_header indented, readBelow_cons_of_header indented, ih]

theorem readLines_append (unindented : ¬ parser.indent <+: next) (file : Bytes)
    (lines rest : List Bytes) :
    parser.readLines file (lines ++ next :: rest) =
      parser.readLines file lines ++ parser.readLines file (next :: rest) := by
  cases lines with
  | nil => rfl
  | cons header lines => exact readBelow_append unindented file header lines rest

/-- The problems of two reports one behind the other are those of the first and those of the second,
if the lines of the first are all ended and the first line of the second lacks the indentation.  A
line that lacks the indentation shows that there is one. -/
theorem parse_append (parser : Parser) {first second : Bytes} (closed : Closed first)
    (apart : second = [] ∨ ¬ parser.indent <+: firstLine second) (file : Bytes) :
    parser.parse (first ++ second) file = parser.parse first file ++ parser.parse second file := by
  rcases apart with rfl | unindented
  · have nothing : parser.parse [] file = [] := rfl
    rw [nothing, List.append_nil, List.append_nil]
  · have solid : parser.indent ≠ [] := fun none => unindented (none ▸ List.nil_prefix)
    obtain ⟨lines, appended⟩ := closed.rawLines_append
    obtain ⟨later, begins⟩ := exists_rawLines_eq_cons second
    have alone : parser.parse first file = parser.readLines file lines := by
      have ended : rawLines first = lines ++ [[]] := by
        have split := appended []
        rw [List.append_nil] at split
        exact split
      rw [parse_eq_readLines_rawLines solid, ended, readLines_blank solid]
    calc parser.parse (first ++ second) file
        = parser.readLines file (lines ++ firstLine second :: later) := by
          rw [parse_eq_readLines_rawLines solid, appended, begins]
      _ = parser.readLines file lines ++ parser.readLines file (firstLine second :: later) :=
          readLines_append unindented file lines later
      _ = parser.parse first file ++ parser.parse second file := by
          rw [alone, parse_eq_readLines_rawLines solid, begins]

/-- A report that ends in a blank line. -/
def trailingReport : Bytes := utf8 "first:\n    a:1:2\r\n\n"

/-- A report whose first line is blank, so that its problem has no message. -/
def nakedReport : Bytes := utf8 "\r\n    :3:4"

theorem parse_trailingReport_append :
    Closed trailingReport ∧
      (nakedReport = [] ∨ ¬ ({} : Parser).indent <+: firstLine nakedReport) ∧
      ({} : Parser).parse (trailingReport ++ nakedReport) (utf8 "x.cue") =
        [⟨utf8 "x.cue", 1, 2, utf8 "first:"⟩, ⟨utf8 "x.cue", 3, 4, []⟩] := by
  have closed : Closed trailingReport := by decide
  have apart : nakedReport = [] ∨ ¬ ({} : Parser).indent <+: firstLine nakedReport := by decide
  have ofFirst : ({} : Parser).parse trailingReport (utf8 "x.cue") =
      [⟨utf8 "x.cue", 1, 2, utf8 "first:"⟩] := by decide +kernel
  have ofSecond : ({} : Parser).parse nakedReport (utf8 "x.cue") =
      [⟨utf8 "x.cue", 3, 4, []⟩] := by decide +kernel
  refine ⟨closed, apart, ?_⟩
  rw [parse_append {} closed apart, ofFirst, ofSecond]
  rfl

end Parser

end Diagnostics

end CueFront
