import CueFront.Proofs.Diagnostics.Custom
import CueFront.Proofs.Diagnostics.PositionPattern
import CueFront.Proofs.Diagnostics.RoundTrip

/-!
# Malformed lines

A line that keeps the indentation but that the matcher rejects opens no block and is no problem, so
it may be put behind any line feed of a report (`parse_insertLines`).  Behind the last line feed it
may turn blank lines at the end, which are dropped, into lines between others.  These change nothing
either.  With an indentation they open blocks without problems, and without one they are rejected:
the scanner and the matcher of every pattern reject a blank line.
-/

namespace CueFront

namespace Diagnostics

/-! ## Inserted lines -/

/-- The text with the lines `added i` put behind line feed `i`, each ended by a line feed. -/
def insertLines (added : Nat → List Bytes) : Bytes → Bytes
  | [] => []
  | b :: rest =>
    if b = Byte.lineFeed then
      b :: (endLines (added 0) ++ insertLines (fun i => added (i + 1)) rest)
    else b :: insertLines added rest

theorem insertLines_unterminated {line : Bytes} (unbroken : Byte.lineFeed ∉ line)
    (added : Nat → List Bytes) : insertLines added line = line := by
  induction line with
  | nil => rfl
  | cons b line ih =>
    have other : b ≠ Byte.lineFeed := (List.ne_of_not_mem_cons unbroken).symm
    rw [insertLines, if_neg other, ih (List.not_mem_of_not_mem_cons unbroken)]

/-- The lines added behind the first line feed stand between the first line and the others. -/
theorem insertLines_terminated {line : Bytes} (unbroken : Byte.lineFeed ∉ line)
    (added : Nat → List Bytes) (rest : Bytes) :
    insertLines added (line ++ Byte.lineFeed :: rest) =
      line ++ Byte.lineFeed :: (endLines (added 0) ++
        insertLines (fun i => added (i + 1)) rest) := by
  induction line with
  | nil => rw [List.nil_append, insertLines, if_pos rfl, List.nil_append]
  | cons b line ih =>
    have other : b ≠ Byte.lineFeed := (List.ne_of_not_mem_cons unbroken).symm
    rw [List.cons_append, insertLines, if_neg other,
      ih (List.not_mem_of_not_mem_cons unbroken), List.cons_append]

/-- Nothing changes where nothing is added. -/
theorem insertLines_nothing (text : Bytes) : insertLines (fun _ => []) text = text := by
  induction text with
  | nil => rfl
  | cons b rest ih =>
    rw [insertLines, ih]
    split
    · rfl
    · rfl

/-- One line may be added behind any line feed.  Behind each the count starts again from zero. -/
theorem insertLines_single (front line back : Bytes) :
    insertLines (fun i => if i = front.count Byte.lineFeed then [line] else [])
        (front ++ Byte.lineFeed :: back) =
      front ++ Byte.lineFeed :: (line ++ Byte.lineFeed :: back) := by
  induction front with
  | nil => simp [insertLines, insertLines_nothing, endLines]
  | cons b front ih =>
    rw [List.cons_append, insertLines]
    by_cases same : b = Byte.lineFeed
    · have later : ∀ i, i + 1 = (b :: front).count Byte.lineFeed ↔
          i = front.count Byte.lineFeed := by
        intro i
        rw [same, List.count_cons_self]
        exact Nat.add_right_cancel_iff
      have notHere : 0 ≠ (b :: front).count Byte.lineFeed := by
        rw [same, List.count_cons_self]
        exact Nat.zero_ne_add_one _
      simp only [if_pos same, later, if_neg notHere, ih]
      rfl
    · rw [if_neg same, List.count_cons_of_ne same, ih]
      rfl

namespace Parser

variable {parser : Parser}

/-! ## Lines that are passed over -/

/-- A line that stays in the block above it and names no position. -/
structure Malformed (parser : Parser) (line : Bytes) : Prop where
  isLine : IsLine line
  indented : parser.indent <+: line
  rejected : parser.matcher line = none

instance (parser : Parser) : DecidablePred parser.Malformed := fun line =>
  decidable_of_iff ((Byte.lineFeed ∉ line ∧ line.getLast? ≠ some Byte.carriageReturn) ∧
      parser.indent <+: line ∧ parser.matcher line = none)
    ⟨fun ⟨⟨unbroken, bare⟩, indented, rejected⟩ => ⟨⟨unbroken, bare⟩, indented, rejected⟩,
      fun ⟨⟨unbroken, bare⟩, indented, rejected⟩ => ⟨⟨unbroken, bare⟩, indented, rejected⟩⟩

theorem readBelow_append_of_malformed {lines : List Bytes}
    (malformed : ∀ line ∈ lines, parser.Malformed line) (file header : Bytes)
    (rest : List Bytes) :
    parser.readBelow file header (lines ++ rest) = parser.readBelow file header rest := by
  induction lines with
  | nil => rfl
  | cons line lines ih =>
    obtain ⟨here, later⟩ := List.forall_mem_cons.mp malformed
    rw [List.cons_append, readBelow_cons_of_indented here.indented, recordOf?, here.rejected,
      ih later]
    rfl

/-- Malformed lines that are added behind the first line feed come back as they are. -/
theorem rawLines_insertLines_terminated {line : Bytes} (unbroken : Byte.lineFeed ∉ line)
    {added : Nat → List Bytes} (malformed : ∀ i, ∀ line ∈ added i, parser.Malformed line)
    (rest : Bytes) :
    rawLines (insertLines added (line ++ Byte.lineFeed :: rest)) =
      stripReturn line :: (added 0 ++ rawLines (insertLines (fun i => added (i + 1)) rest)) := by
  have unbrokenAdded : ∀ line ∈ added 0, Byte.lineFeed ∉ line := fun line inside =>
    (malformed 0 line inside).isLine.unbroken
  have bare : ∀ line ∈ added 0, line.getLast? ≠ some Byte.carriageReturn := fun line inside =>
    (malformed 0 line inside).isLine.bare
  rw [insertLines_terminated unbroken, rawLines_terminated unbroken,
    rawLines_endLines_append unbrokenAdded, map_stripReturn_of_ne bare]

theorem readBelow_insertLines {added : Nat → List Bytes}
    (malformed : ∀ i, ∀ line ∈ added i, parser.Malformed line) (file text header : Bytes) :
    parser.readBelow file header (rawLines (insertLines added text)) =
      parser.readBelow file header (rawLines text) := by
  induction text using line_induction generalizing added header with
  | last line unbroken => rw [insertLines_unterminated unbroken]
  | ended line rest unbroken ih =>
    rw [rawLines_insertLines_terminated unbroken malformed, rawLines_terminated unbroken]
    refine readBelow_cons_congr (fun header => ?_) header (stripReturn line)
    rw [readBelow_append_of_malformed (malformed 0), ih fun i => malformed (i + 1)]

theorem readLines_insertLines {added : Nat → List Bytes}
    (malformed : ∀ i, ∀ line ∈ added i, parser.Malformed line) (file text : Bytes) :
    parser.readLines file (rawLines (insertLines added text)) =
      parser.readLines file (rawLines text) := by
  induction text using line_induction with
  | last line unbroken => rw [insertLines_unterminated unbroken]
  | ended line rest unbroken _ =>
    rw [rawLines_insertLines_terminated unbroken malformed, rawLines_terminated unbroken]
    simp only [readLines]
    rw [readBelow_append_of_malformed (malformed 0),
      readBelow_insertLines fun i => malformed (i + 1)]

/-! ## Blank lines at the end -/

/-- Without an indentation every line is below the first. -/
theorem readBelow_of_unset (unset : parser.indent = []) (file header : Bytes)
    (lines : List Bytes) :
    parser.readBelow file header lines = lines.filterMap (parser.recordOf? file header) := by
  induction lines with
  | nil => rfl
  | cons line lines ih =>
    have indented : parser.indent <+: line := unset ▸ List.nil_prefix
    rw [readBelow_cons_of_indented indented, ih, List.filterMap_cons]
    cases parser.recordOf? file header line with
    | none => rfl
    | some record => rfl

/-- The blank lines at the end of a report may be read as well, as long as the matcher rejects
them. -/
theorem parse_eq_readLines_rawLines_of_rejected (rejected : parser.matcher [] = none)
    (report file : Bytes) :
    parser.parse report file = parser.readLines file (rawLines report) := by
  by_cases unset : parser.indent = []
  · rw [parse_eq_readLines, splitLines_eq]
    refine apply_dropBlankTail (fun lines => ?_) (rawLines report)
    cases lines with
    | nil => rfl
    | cons header rest =>
      simp only [List.cons_append, readLines]
      rw [readBelow_of_unset unset, readBelow_of_unset unset, List.filterMap_append]
      simp [recordOf?, rejected]
  · exact parse_eq_readLines_rawLines unset report file

/-! ## The law -/

/-- A blank line is rejected by the scanner and by every pattern.  For every matcher that rejects
it, the problems of a report stay the same when malformed lines are added behind its line feeds, any
number of them behind each, and so when one is added behind one line feed. -/
theorem parse_insertLines :
    Position.scan? [] = none ∧
      (∀ pattern matcher, readMatcher pattern = .ok matcher → matcher [] = none) ∧
      ∀ parser : Parser, parser.matcher [] = none → ∀ file : Bytes,
        (∀ (added : Nat → List Bytes) (report : Bytes),
          (∀ i, ∀ line ∈ added i, parser.Malformed line) →
            parser.parse (insertLines added report) file = parser.parse report file) ∧
        ∀ front line back : Bytes, parser.Malformed line →
          parser.parse (front ++ Byte.lineFeed :: (line ++ Byte.lineFeed :: back)) file =
            parser.parse (front ++ Byte.lineFeed :: back) file := by
  refine ⟨rfl, fun pattern matcher read => readMatcher_blank read, ?_⟩
  intro parser rejected file
  have many : ∀ (added : Nat → List Bytes) (report : Bytes),
      (∀ i, ∀ line ∈ added i, parser.Malformed line) →
        parser.parse (insertLines added report) file = parser.parse report file := by
    intro added report malformed
    rw [parse_eq_readLines_rawLines_of_rejected rejected,
      parse_eq_readLines_rawLines_of_rejected rejected, readLines_insertLines malformed]
  refine ⟨many, fun front line back malformed => ?_⟩
  rw [← insertLines_single, many]
  intro i other inside
  split at inside
  · rwa [List.mem_singleton.mp inside]
  · cases inside

/-- A parser by pattern that asks for no indentation. -/
def openParser : Parser := { matcher := matcherOf ⟨PositionPattern.expr, 2⟩, indent := [] }

/-- A report that ends in a blank line. -/
def blankReport : Bytes := utf8 "m:\r\n    a:1:2\n\n"

/-- Two lines below the header, one of them blank, and one behind the blank line at the end. -/
def strayLines : Nat → List Bytes
  | 0 => [utf8 "    a:0:2", []]
  | 2 => [utf8 "a:1:2"]
  | _ => []

theorem malformed_strayLines : ∀ i, ∀ line ∈ strayLines i, openParser.Malformed line
  | 0 => by decide +kernel
  | 1 => fun _ inside => by cases inside
  | 2 => by decide +kernel
  | _ + 3 => fun _ inside => by cases inside

theorem parse_insertLines_strayLines :
    readMatcher positionPattern = .ok openParser.matcher ∧
      (∀ i, ∀ line ∈ strayLines i, openParser.Malformed line) ∧
      insertLines strayLines blankReport = utf8 "m:\r\n    a:0:2\n\n    a:1:2\n\na:1:2\n" ∧
      openParser.parse (insertLines strayLines blankReport) (utf8 "x.cue") =
        [⟨utf8 "x.cue", 1, 2, utf8 "m:"⟩] ∧
      openParser.parse (utf8 "m:\r\n" ++ utf8 "    a:0:2\n" ++ utf8 "    a:1:2\n\n")
        (utf8 "x.cue") = [⟨utf8 "x.cue", 1, 2, utf8 "m:"⟩] := by
  obtain ⟨-, ofPattern, inserts⟩ := parse_insertLines
  have read : readMatcher positionPattern = .ok openParser.matcher := rfl
  have rejected : openParser.matcher [] = none := ofPattern positionPattern _ read
  have alone : openParser.parse blankReport (utf8 "x.cue") =
      [⟨utf8 "x.cue", 1, 2, utf8 "m:"⟩] := by decide +kernel
  obtain ⟨many, one⟩ := inserts openParser rejected (utf8 "x.cue")
  refine ⟨read, malformed_strayLines, by decide, ?_, ?_⟩
  · rw [many strayLines blankReport malformed_strayLines, alone]
  · have stray : openParser.Malformed (utf8 "    a:0:2") := by decide +kernel
    exact (one (utf8 "m:\r") _ (utf8 "    a:1:2\n\n") stray).trans alone

end Parser

end Diagnostics

end CueFront
