import CueFront.Proofs.Diagnostics.RoundTrip

/-!
# Printed paths are not trusted

Two reports that are equal except for the paths of position lines are read as the same problems,
whatever bytes the paths are made of (`parse_readdressed`).  A path cannot shift which numerals are
read, since there is one way to read a position line, nor where the line ends, since the line ends
in a digit.  The file of a problem is the one the caller names.
-/

namespace CueFront

namespace Diagnostics

/-! ## Reports with other paths -/

/-- A position line with a given path and numerals. -/
def positionLine (path row column : Bytes) : Bytes :=
  Position.indent ++ (path ++ Byte.colon :: row ++ Byte.colon :: column)

/-- Two position lines with the same numerals, the first of which the scanner accepts. -/
inductive Repathed : Bytes → Bytes → Prop where
  | intro {path path' row column : Bytes} :
    Byte.lineFeed ∉ path →
    Byte.lineFeed ∉ path' →
    Decimal.isNumeral row = true →
    Decimal.isNumeral column = true →
    (Position.scan? (positionLine path row column)).isSome = true →
    Repathed (positionLine path row column) (positionLine path' row column)

/-- Two texts that are equal except for the paths of some accepted lines.  Both start where a line
starts. -/
inductive RepathedLines : Bytes → Bytes → Prop where
  /-- No path differs from here on. -/
  | same (text : Bytes) : RepathedLines text text
  /-- The first line is the same. -/
  | keep {line rest rest' : Bytes} :
    Byte.lineFeed ∉ line →
    RepathedLines rest rest' →
    RepathedLines (line ++ Byte.lineFeed :: rest) (line ++ Byte.lineFeed :: rest')
  /-- The first line has another path. -/
  | ended {line line' rest rest' : Bytes} (ending : LineEnd) :
    Repathed line line' →
    RepathedLines rest rest' →
    RepathedLines (line ++ ending.bytes ++ rest) (line' ++ ending.bytes ++ rest')
  /-- The last line has another path. -/
  | last {line line' : Bytes} :
    Repathed line line' →
    RepathedLines line line'

/-- Two reports that are equal except for the paths of some accepted lines below the first line. -/
inductive Readdressed : Bytes → Bytes → Prop where
  /-- There is no difference. -/
  | same (report : Bytes) : Readdressed report report
  /-- The differences are below the first line. -/
  | below {first rest rest' : Bytes} :
    Byte.lineFeed ∉ first →
    RepathedLines rest rest' →
    Readdressed (first ++ Byte.lineFeed :: rest) (first ++ Byte.lineFeed :: rest')

/-! ## The lines -/

namespace Repathed

variable {line line' : Bytes}

theorem isLine (repathed : Repathed line line') : IsLine line ∧ IsLine line' := by
  obtain ⟨unbroken, unbroken', rowNumeral, columnNumeral, -⟩ := repathed
  exact ⟨isLine_position unbroken rowNumeral columnNumeral,
    isLine_position unbroken' rowNumeral columnNumeral⟩

/-- Both lines name the same place. -/
theorem scan?_eq (repathed : Repathed line line') :
    ∃ position, Position.scan? line = some position ∧ Position.scan? line' = some position := by
  obtain @⟨path, path', row, column, -, -, rowNumeral, columnNumeral, accepted⟩ := repathed
  obtain ⟨position, found⟩ := Option.isSome_iff_exists.mp accepted
  refine ⟨position, found, ?_⟩
  obtain ⟨row', column', reads, readRow, readColumn⟩ := Position.scan?_eq_some.mp found
  have written : Position.IsPosition (positionLine path row column) row column :=
    ⟨path, rfl, rowNumeral, columnNumeral⟩
  obtain ⟨rfl, rfl⟩ := reads.unique written
  exact Position.scan?_eq_some.mpr
    ⟨_, _, ⟨path', rfl, rowNumeral, columnNumeral⟩, readRow, readColumn⟩

end Repathed

namespace Parser

/-- A line and the same line with another path are the same problem. -/
theorem readBelow_cons_repathed {line line' file : Bytes} {lines lines' : List Bytes}
    (repathed : Repathed line line')
    (same : ∀ header, ({} : Parser).readBelow file header lines =
      ({} : Parser).readBelow file header lines') (header : Bytes) :
    ({} : Parser).readBelow file header (line :: lines) =
      ({} : Parser).readBelow file header (line' :: lines') := by
  obtain ⟨position, found, found'⟩ := repathed.scan?_eq
  have indented : ({} : Parser).indent <+: line := blockIndent_isPrefix found
  have indented' : ({} : Parser).indent <+: line' := blockIndent_isPrefix found'
  have record : ({} : Parser).recordOf? file header line =
      ({} : Parser).recordOf? file header line' :=
    congrArg (Option.map _) (found.trans found'.symm)
  rw [readBelow_cons_of_indented indented, readBelow_cons_of_indented indented', record, same]

/-- Lines that differ in paths are the same problems below any header. -/
theorem readBelow_repathedLines {text text' : Bytes} (repathed : RepathedLines text text')
    (file header : Bytes) :
    ({} : Parser).readBelow file header (rawLines text) =
      ({} : Parser).readBelow file header (rawLines text') := by
  induction repathed generalizing header with
  | same text => rfl
  | @keep line rest rest' unbroken _ ih =>
    rw [rawLines_terminated unbroken, rawLines_terminated unbroken]
    exact readBelow_cons_congr ih header (stripReturn line)
  | ended ending repathed _ ih =>
    obtain ⟨isLine, isLine'⟩ := repathed.isLine
    rw [rawLines_ended isLine, rawLines_ended isLine']
    exact readBelow_cons_repathed repathed ih header
  | last repathed =>
    obtain ⟨isLine, isLine'⟩ := repathed.isLine
    rw [rawLines_unterminated isLine.unbroken, rawLines_unterminated isLine'.unbroken]
    exact readBelow_cons_repathed repathed (fun _ => rfl) header

/-! ## The law -/

/-- Only the file the caller names gets into the problems. -/
theorem parse_file (parser : Parser) (report file other : Bytes) :
    parser.parse report other =
      (parser.parse report file).map fun record => { record with file := other } := by
  have byBlock : ∀ block, parser.recordsOfBlock other block =
      (parser.recordsOfBlock file block).map fun record => { record with file := other } := by
    intro block
    simp only [recordsOfBlock, List.map_filterMap, Option.map_map]
    rfl
  rw [parse, parse, List.map_flatMap]
  exact List.flatMap_congr fun block _ => byBlock block

/-- Reports that are equal except for the paths of accepted lines below the first are the same
problems.  Another file than `file` gives the same problems of that file. -/
theorem parse_readdressed :
    (∀ report report', Readdressed report report' → ∀ file : Bytes,
      ({} : Parser).parse report file = ({} : Parser).parse report' file) ∧
      ∀ (parser : Parser) (report file other : Bytes), parser.parse report other =
        (parser.parse report file).map fun record => { record with file := other } := by
  refine ⟨?_, parse_file⟩
  intro report report' readdressed file
  have solid : ({} : Parser).indent ≠ [] := by decide
  cases readdressed with
  | same => rfl
  | below unbroken repathed =>
    rw [parse_eq_readLines_rawLines solid, parse_eq_readLines_rawLines solid,
      rawLines_terminated unbroken, rawLines_terminated unbroken]
    exact readBelow_repathedLines repathed file _

/-- A report of two blocks, with a place in each.  The last line is not ended. -/
def twoPlaces (path path' : Bytes) : Bytes :=
  utf8 "    :1:1" ++ Byte.lineFeed :: (positionLine path (utf8 "3") (utf8 "04") ++
    LineEnd.crlf.bytes ++ (utf8 "other:" ++ Byte.lineFeed :: positionLine path' (utf8 "5")
      (utf8 "6")))

/-- Paths that look like positions, hold a carriage return or are missing. -/
theorem parse_twoPlaces :
    twoPlaces (utf8 "a.cue") (utf8 "b.cue") =
        utf8 "    :1:1\n    a.cue:3:04\r\nother:\n    b.cue:5:6" ∧
      Readdressed (twoPlaces (utf8 "a.cue") (utf8 "b.cue")) (twoPlaces (utf8 " 7:8:\r") []) ∧
      ({} : Parser).parse (twoPlaces (utf8 " 7:8:\r") []) (utf8 "x.cue") =
        [⟨utf8 "x.cue", 3, 4, utf8 "    :1:1"⟩, ⟨utf8 "x.cue", 5, 6, utf8 "other:"⟩] := by
  have first : Repathed (positionLine (utf8 "a.cue") (utf8 "3") (utf8 "04"))
      (positionLine (utf8 " 7:8:\r") (utf8 "3") (utf8 "04")) :=
    .intro (by decide) (by decide) (by decide) (by decide) (by decide +kernel)
  have second : Repathed (positionLine (utf8 "b.cue") (utf8 "5") (utf8 "6"))
      (positionLine [] (utf8 "5") (utf8 "6")) :=
    .intro (by decide) (by decide) (by decide) (by decide) (by decide +kernel)
  have readdressed :
      Readdressed (twoPlaces (utf8 "a.cue") (utf8 "b.cue")) (twoPlaces (utf8 " 7:8:\r") []) :=
    .below (by decide) (.ended .crlf first (.keep (by decide) (.last second)))
  have honest : ({} : Parser).parse (twoPlaces (utf8 "a.cue") (utf8 "b.cue")) (utf8 "x.cue") =
      [⟨utf8 "x.cue", 3, 4, utf8 "    :1:1"⟩, ⟨utf8 "x.cue", 5, 6, utf8 "other:"⟩] := by
    decide +kernel
  exact ⟨by decide, readdressed, (parse_readdressed.1 _ _ readdressed _).symm.trans honest⟩

end Parser

end Diagnostics

end CueFront
