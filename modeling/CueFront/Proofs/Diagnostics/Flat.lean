import CueFront.Diagnostics.Parser
import CueFront.Proofs.Diagnostics.Lines
import CueFront.Proofs.Diagnostics.Position
import Mathlib.Data.Nat.Find

/-!
# Reading a report line by line

A parser cuts a report into blocks before it reads them.  The same problems come from a reading
that knows no blocks: line `i` is a problem when it is not the first line, keeps the indentation
and is accepted by the matcher, and its message is the nearest line up to `i` that is the first
or lacks the indentation (`headerIndex`).  The step between the two is `readBelow`, which goes
down the lines and carries the header that is above them.  It passes over the blank lines at the
end of a report, so nothing depends on their being dropped (`parse_eq_readLines_rawLines`).
-/

namespace CueFront

namespace Diagnostics

/-! ### Blocks -/

/-- The first block goes up to the next item that opens one, and the other blocks are those of
the items from there on. -/
theorem groupOrdered_cons {α : Type} (opens : α → Bool) (item : α) (rest : List α) :
    groupOrdered opens (item :: rest) =
      ⟨item, rest.takeWhile fun a => !opens a⟩ ::
        groupOrdered opens (rest.dropWhile fun a => !opens a) := by
  induction rest generalizing item with
  | nil => rfl
  | cons next rest ih =>
    have step : groupOrdered opens (item :: next :: rest) =
        prependItem opens item (groupOrdered opens (next :: rest)) := rfl
    rw [step, ih next, prependItem]
    cases opening : opens next with
    | true =>
      rw [List.takeWhile_cons_of_neg (by simp [opening]),
        List.dropWhile_cons_of_neg (by simp [opening]), ih next]
      rfl
    | false =>
      rw [List.takeWhile_cons_of_pos (by simp [opening]),
        List.dropWhile_cons_of_pos (by simp [opening])]
      rfl

namespace Parser

/-- The record of a line below a header. -/
def recordOf? (parser : Parser) (file header line : Bytes) : Option Record :=
  (parser.matcher line).map fun position =>
    { file, line := position.line, column := position.column, message := header }

/-- The problems of the lines below a header.  A line without the indentation is the header of
the lines below it. -/
def readBelow (parser : Parser) (file header : Bytes) : List Bytes → List Record
  | [] => []
  | line :: rest =>
    if parser.indent.isPrefixOf line then
      (parser.recordOf? file header line).toList ++ parser.readBelow file header rest
    else parser.readBelow file line rest

theorem readBelow_cons_of_indented {parser : Parser} {line : Bytes}
    (indented : parser.indent <+: line) (file header : Bytes) (rest : List Bytes) :
    parser.readBelow file header (line :: rest) =
      (parser.recordOf? file header line).toList ++ parser.readBelow file header rest := by
  rw [readBelow, if_pos (List.isPrefixOf_iff_prefix.mpr indented)]

theorem readBelow_cons_of_header {parser : Parser} {line : Bytes}
    (unindented : ¬ parser.indent <+: line) (file header : Bytes) (rest : List Bytes) :
    parser.readBelow file header (line :: rest) = parser.readBelow file line rest := by
  rw [readBelow, if_neg fun is => unindented (List.isPrefixOf_iff_prefix.mp is)]

/-- Lines that read alike below every header read alike behind one more line. -/
theorem readBelow_cons_congr {parser : Parser} {file : Bytes} {lines lines' : List Bytes}
    (same : ∀ header, parser.readBelow file header lines = parser.readBelow file header lines')
    (header line : Bytes) :
    parser.readBelow file header (line :: lines) =
      parser.readBelow file header (line :: lines') := by
  simp only [readBelow, same]

theorem recordsOfBlock_cons (parser : Parser) (file header line : Bytes) (body : List Bytes) :
    parser.recordsOfBlock file ⟨header, line :: body⟩ =
      (parser.recordOf? file header line).toList ++ parser.recordsOfBlock file ⟨header, body⟩ := by
  simp only [recordsOfBlock, recordOf?]
  rw [List.filterMap_cons]
  cases parser.matcher line with
  | none => rfl
  | some position => rfl

/-- The blocks of some lines hold the problems that going down the lines finds.  The same header
opens the block of the lines behind an indented one. -/
theorem flatMap_groupOrdered (parser : Parser) (file header : Bytes) (rest : List Bytes) :
    (groupOrdered (fun line => !parser.indent.isPrefixOf line) (header :: rest)).flatMap
        (parser.recordsOfBlock file) =
      parser.readBelow file header rest := by
  induction rest generalizing header with
  | nil => rfl
  | cons line rest ih =>
    have later := ih header
    rw [groupOrdered_cons, List.flatMap_cons] at later ⊢
    by_cases indented : parser.indent <+: line
    · rw [List.takeWhile_cons_of_pos (by simp [indented]),
        List.dropWhile_cons_of_pos (by simp [indented]), recordsOfBlock_cons,
        List.append_assoc, later, readBelow_cons_of_indented indented]
    · rw [List.takeWhile_cons_of_neg (by simp [indented]),
        List.dropWhile_cons_of_neg (by simp [indented]), ih line,
        readBelow_cons_of_header indented]
      rfl

/-- The problems of a list of lines, the first of which is a header. -/
def readLines (parser : Parser) (file : Bytes) : List Bytes → List Record
  | [] => []
  | header :: rest => parser.readBelow file header rest

theorem parse_eq_readLines (parser : Parser) (report file : Bytes) :
    parser.parse report file = parser.readLines file (splitLines report) := by
  simp only [parse, group, groupLines]
  cases splitLines report with
  | nil => rfl
  | cons header rest => exact parser.flatMap_groupOrdered file header rest

/-! ### Blank lines at the end -/

/-- A blank line lacks the indentation, unless there is none. -/
theorem readBelow_blank {parser : Parser} (solid : parser.indent ≠ []) (file header : Bytes)
    (lines : List Bytes) :
    parser.readBelow file header (lines ++ [[]]) = parser.readBelow file header lines := by
  induction lines generalizing header with
  | nil => exact readBelow_cons_of_header (mt List.prefix_nil.mp solid) file header []
  | cons line lines ih =>
    rw [List.cons_append]
    by_cases indented : parser.indent <+: line
    · rw [readBelow_cons_of_indented indented, readBelow_cons_of_indented indented, ih]
    · rw [readBelow_cons_of_header indented, readBelow_cons_of_header indented, ih]

theorem readLines_blank {parser : Parser} (solid : parser.indent ≠ []) (file : Bytes)
    (lines : List Bytes) :
    parser.readLines file (lines ++ [[]]) = parser.readLines file lines := by
  cases lines with
  | nil => rfl
  | cons header rest => exact readBelow_blank solid file header rest

/-- The blank lines at the end of a report may be read as well, as long as the indentation sets
them apart. -/
theorem parse_eq_readLines_rawLines {parser : Parser} (solid : parser.indent ≠ [])
    (report file : Bytes) : parser.parse report file = parser.readLines file (rawLines report) := by
  rw [parse_eq_readLines, splitLines_eq, apply_dropBlankTail (readLines_blank solid file)]

/-! ### Lines by number -/

/-- The number of the header of line `i`: the greatest number up to `i` that is zero or belongs
to a line without the indentation. -/
def headerIndex (indent : Bytes) (lines : List Bytes) (i : Nat) : Nat :=
  Nat.findGreatest (fun j => j = 0 ∨ ¬ indent <+: lines.getD j []) i

/-- The record of line `i`, if the line is a problem. -/
def recordAt? (parser : Parser) (file : Bytes) (lines : List Bytes) (i : Nat) : Option Record :=
  if 1 ≤ i ∧ parser.indent <+: lines.getD i [] then
    parser.recordOf? file (lines.getD (headerIndex parser.indent lines i) []) (lines.getD i [])
  else none

theorem headerIndex_of_header {indent : Bytes} {lines : List Bytes} {i : Nat}
    (unindented : ¬ indent <+: lines.getD i []) : headerIndex indent lines i = i :=
  Nat.findGreatest_eq (.inr unindented)

theorem headerIndex_of_indented {indent : Bytes} {lines : List Bytes} {i : Nat}
    (indented : indent <+: lines.getD (i + 1) []) :
    headerIndex indent lines (i + 1) = headerIndex indent lines i := by
  apply Nat.findGreatest_of_not
  rintro (zero | unindented)
  · exact Nat.succ_ne_zero i zero
  · exact unindented indented

/-- Going down the lines below line `k` finds the problems numbered from `k + 1` on: the header
it carries is the header of line `k`. -/
theorem readBelow_eq_filterMap (parser : Parser) (file : Bytes) (lines rest : List Bytes)
    (k : Nat) (below : lines.drop (k + 1) = rest) :
    parser.readBelow file (lines.getD (headerIndex parser.indent lines k) []) rest =
      (List.range' (k + 1) rest.length).filterMap (parser.recordAt? file lines) := by
  induction rest generalizing k with
  | nil => rfl
  | cons line rest ih =>
    have here : lines.getD (k + 1) [] = line := by
      rw [List.getD_eq_getElem?_getD, ← List.head?_drop, below]
      rfl
    have later : lines.drop (k + 1 + 1) = rest := by
      rw [← List.drop_drop, below]
      rfl
    rw [List.length_cons, List.range'_succ, List.filterMap_cons, recordAt?, ← ih (k + 1) later,
      here]
    by_cases indented : parser.indent <+: line
    · have sameHeader : headerIndex parser.indent lines (k + 1) =
          headerIndex parser.indent lines k :=
        headerIndex_of_indented (here ▸ indented)
      rw [if_pos ⟨Nat.succ_pos k, indented⟩, sameHeader, readBelow_cons_of_indented indented]
      cases parser.recordOf? file _ line with
      | none => rfl
      | some record => rfl
    · have newHeader : headerIndex parser.indent lines (k + 1) = k + 1 :=
        headerIndex_of_header (here ▸ indented)
      rw [if_neg fun both => indented both.2, newHeader, here, readBelow_cons_of_header indented]

theorem readLines_eq_filterMap (parser : Parser) (file : Bytes) (lines : List Bytes) :
    parser.readLines file lines =
      (List.range lines.length).filterMap (parser.recordAt? file lines) := by
  cases lines with
  | nil => rfl
  | cons header rest =>
    have below := parser.readBelow_eq_filterMap file (header :: rest) rest 0 rfl
    rw [List.range_eq_range', List.length_cons, List.range'_succ, List.filterMap_cons, ← below]
    rfl

/-! ### The scanner and the indentation -/

/-- A position line keeps the indentation of its block. -/
theorem blockIndent_isPrefix {line : Bytes} {position : Position}
    (found : Position.scan? line = some position) : blockIndent <+: line := by
  obtain ⟨row, column, ⟨path, rfl, -⟩, -⟩ := Position.scan?_eq_some.mp found
  have shorter : blockIndent <+: Position.indent := by decide
  exact shorter.trans (List.prefix_append _ _)

/-- With the scanner and its indentation, the indentation need not be asked for. -/
theorem recordAt?_scan (file : Bytes) (lines : List Bytes) (i : Nat) :
    ({} : Parser).recordAt? file lines i =
      if 1 ≤ i then
        ({} : Parser).recordOf? file (lines.getD (headerIndex blockIndent lines i) [])
          (lines.getD i [])
      else none := by
  simp only [recordAt?]
  by_cases first : 1 ≤ i
  · by_cases indented : blockIndent <+: lines.getD i []
    · rw [if_pos ⟨first, indented⟩, if_pos first]
    · rw [if_neg fun both => indented both.2, if_pos first]
      cases found : Position.scan? (lines.getD i []) with
      | none =>
        show none = (Position.scan? (lines.getD i [])).map _
        rw [found]
        rfl
      | some position => exact absurd (blockIndent_isPrefix found) indented
  · rw [if_neg fun both => first both.1, if_neg first]

/-- The problems of a report are those of its lines, in the order of the lines: one for each line
but the first that keeps the indentation and is accepted, under its nearest header.  Every line
that the scanner accepts keeps the indentation, so with the scanner each accepted line but the
first is one problem. -/
theorem parse_eq_filterMap (parser : Parser) (report file : Bytes) :
    parser.parse report file =
        (List.range (splitLines report).length).filterMap
          (parser.recordAt? file (splitLines report)) ∧
      (∀ line position, Position.scan? line = some position → blockIndent <+: line) ∧
      ({} : Parser).parse report file =
        (List.range (splitLines report).length).filterMap fun i =>
          if 1 ≤ i then
            ({} : Parser).recordOf? file
              ((splitLines report).getD (headerIndex blockIndent (splitLines report) i) [])
              ((splitLines report).getD i [])
          else none := by
  have byLine : ∀ parser : Parser, parser.parse report file =
      (List.range (splitLines report).length).filterMap
        (parser.recordAt? file (splitLines report)) := by
    intro parser
    rw [parse_eq_readLines, readLines_eq_filterMap]
  refine ⟨byLine parser, fun line position found => blockIndent_isPrefix found, ?_⟩
  rw [byLine {}]
  congr 1
  funext i
  exact recordAt?_scan file (splitLines report) i

end Parser

end Diagnostics

end CueFront
