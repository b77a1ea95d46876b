import CueFront.Proofs.Diagnostics.Flat

/-!
# Reports are read back

The tool prints a report as entries: a header, and a position line for each place.
`parse_writeLines` says that a report is read back from its text, whatever the paths hold and
however each line is ended.  Reading undoes writing in two steps.

* The lines come back (`rawLines_writeLines`), up to one blank line at the end, because neither
  a header nor a position line ends in a carriage return.
* The problems come back from the lines (`readLines_entries`), because a header does not keep
  the indentation and a position line is read one way.
-/

namespace CueFront

namespace Diagnostics

/-! ## Lines as they are written -/

/-- A line that a line ending leaves as it is: it holds no line feed, and no carriage return at
its end. -/
structure IsLine (line : Bytes) : Prop where
  unbroken : Byte.lineFeed ∉ line
  bare : line.getLast? ≠ some Byte.carriageReturn

/-- How a line ends. -/
inductive LineEnd where
  | lf
  | crlf
deriving DecidableEq, Repr

/-- The bytes of a line ending. -/
def LineEnd.bytes : LineEnd → Bytes
  | .lf => [Byte.lineFeed]
  | .crlf => [Byte.carriageReturn, Byte.lineFeed]

/-- The text of some lines.  Line `i` has the ending `ends i`, the last line only if the text is
closed. -/
def writeLines (ends : Nat → LineEnd) (closed : Bool) : List Bytes → Bytes
  | [] => []
  | [line] => if closed then line ++ (ends 0).bytes else line
  | line :: next :: rest =>
    line ++ (ends 0).bytes ++ writeLines (fun i => ends (i + 1)) closed (next :: rest)

/-- A line comes back from its ending.  A line feed alone must not stand behind a carriage return of
the line. -/
theorem rawLines_lineEnd {line : Bytes} (unbroken : Byte.lineFeed ∉ line) {ending : LineEnd}
    (bare : ending = .lf → line.getLast? ≠ some Byte.carriageReturn) (rest : Bytes) :
    rawLines (line ++ ending.bytes ++ rest) = line :: rawLines rest := by
  rw [List.append_assoc]
  cases ending with
  | lf =>
    have split := rawLines_terminated unbroken rest
    rw [stripReturn_of_ne (bare rfl)] at split
    exact split
  | crlf =>
    have unbroken : Byte.lineFeed ∉ line ++ [Byte.carriageReturn] := by
      intro inside
      rcases List.mem_append.mp inside with inside | inside
      · exact unbroken inside
      · exact absurd inside (by decide)
    have split := rawLines_terminated unbroken rest
    rw [stripReturn_append_return, List.append_assoc] at split
    exact split

/-- A line comes back from either ending. -/
theorem rawLines_ended {line : Bytes} (isLine : IsLine line) (ending : LineEnd) (rest : Bytes) :
    rawLines (line ++ ending.bytes ++ rest) = line :: rawLines rest :=
  rawLines_lineEnd isLine.unbroken (fun _ => isLine.bare) rest

/-- The lines of a written text are the lines written, with a blank one if every line is
ended. -/
theorem rawLines_writeLines {lines : List Bytes} (areLines : ∀ line ∈ lines, IsLine line)
    (ends : Nat → LineEnd) (closed : Bool) :
    rawLines (writeLines ends closed lines) = lines ∨
      rawLines (writeLines ends closed lines) = lines ++ [[]] := by
  induction lines generalizing ends with
  | nil => exact .inr rfl
  | cons line rest ih =>
    have isLine := areLines line List.mem_cons_self
    cases rest with
    | nil =>
      cases closed with
      | false => exact .inl (rawLines_unterminated isLine.unbroken)
      | true =>
        have split := rawLines_ended isLine (ends 0) []
        rw [List.append_nil] at split
        exact .inr split
    | cons next rest =>
      have later := ih (List.forall_mem_of_forall_mem_cons areLines) fun i => ends (i + 1)
      rw [writeLines, rawLines_ended isLine]
      exact later.imp (congrArg (line :: ·)) (congrArg (line :: ·))

namespace Parser

/-- A written text has the problems of its lines. -/
theorem parse_writeLines_eq_readLines {lines : List Bytes}
    (areLines : ∀ line ∈ lines, IsLine line) (ends : Nat → LineEnd) (closed : Bool)
    (file : Bytes) :
    ({} : Parser).parse (writeLines ends closed lines) file =
      ({} : Parser).readLines file lines := by
  have solid : ({} : Parser).indent ≠ [] := by decide
  rw [parse_eq_readLines_rawLines solid]
  rcases rawLines_writeLines areLines ends closed with same | blank
  · rw [same]
  · rw [blank, readLines_blank solid]

end Parser

/-! ## Entries -/

/-- A place as the tool names it. -/
structure Place where
  /-- Any path on one line. -/
  path : Bytes
  /-- The line, counted from one. -/
  line : Nat
  /-- The column, counted from one. -/
  column : Nat
  unbroken : Byte.lineFeed ∉ path
  line_pos : 1 ≤ line
  line_le : line ≤ Position.limit
  column_pos : 1 ≤ column
  column_le : column ≤ Position.limit

/-- A message and the places it is about. -/
structure Entry where
  /-- The message, on one line. -/
  header : Bytes
  /-- The places, in order. -/
  places : List Place
  isLine : IsLine header

/-- The position line of a place. -/
def Place.print (place : Place) : Bytes :=
  Position.indent ++ (place.path ++ Byte.colon :: Decimal.digits place.line ++ Byte.colon ::
    Decimal.digits place.column)

/-- The lines of an entry. -/
def Entry.print (entry : Entry) : List Bytes := entry.header :: entry.places.map Place.print

/-- The problems an entry stands for. -/
def Entry.records (file : Bytes) (entry : Entry) : List Record :=
  entry.places.map fun place =>
    { file, line := place.line, column := place.column, message := entry.header }

namespace Position

theorem readOrdinal?_digits {n : Nat} (positive : 1 ≤ n) (fits : n ≤ limit) :
    readOrdinal? (Decimal.digits n) = some n := by
  rw [readOrdinal?, Decimal.readUpTo?_digits fits, Option.filter_some, if_pos (by simpa)]

theorem isPosition_print (place : Place) :
    IsPosition place.print (Decimal.digits place.line) (Decimal.digits place.column) :=
  ⟨place.path, rfl, Decimal.isNumeral_digits place.line, Decimal.isNumeral_digits place.column⟩

theorem scan?_print (place : Place) : scan? place.print = some ⟨place.line, place.column⟩ :=
  scan?_eq_some.mpr ⟨_, _, isPosition_print place,
    readOrdinal?_digits place.line_pos place.line_le,
    readOrdinal?_digits place.column_pos place.column_le⟩

end Position

/-- A position line ends in a digit, not in a carriage return. -/
theorem isLine_position {path row column : Bytes} (unbroken : Byte.lineFeed ∉ path)
    (rowNumeral : Decimal.isNumeral row = true) (columnNumeral : Decimal.isNumeral column = true) :
    IsLine (Position.indent ++ (path ++ Byte.colon :: row ++ Byte.colon :: column)) := by
  constructor
  · have indent : Byte.lineFeed ∉ Position.indent := by decide
    have colon : Byte.lineFeed ≠ Byte.colon := by decide
    have inRow : Byte.lineFeed ∉ row := Decimal.not_mem_of_isNumeral rowNumeral (by decide)
    have inColumn : Byte.lineFeed ∉ column :=
      Decimal.not_mem_of_isNumeral columnNumeral (by decide)
    simp [unbroken, indent, colon, inRow, inColumn]
  · intro ended
    have solid : column ≠ [] := (Decimal.isNumeral_iff_digits.mp columnNumeral).1
    have ofColumn : column.getLast? = some Byte.carriageReturn := by
      rw [List.getLast?_append_of_ne_nil _ (by simp), List.getLast?_append_of_ne_nil _ (by simp),
        List.getLast?_cons_of_ne_nil solid] at ended
      exact ended
    exact Decimal.not_mem_of_isNumeral columnNumeral (by decide) (List.mem_of_getLast? ofColumn)

theorem isLine_print (place : Place) : IsLine place.print :=
  isLine_position place.unbroken (Decimal.isNumeral_digits place.line)
    (Decimal.isNumeral_digits place.column)

theorem isLine_entries {entries : List Entry} :
    ∀ line ∈ entries.flatMap Entry.print, IsLine line := by
  intro line inside
  obtain ⟨entry, -, inside⟩ := List.mem_flatMap.mp inside
  rcases List.mem_cons.mp inside with rfl | inside
  · exact entry.isLine
  · obtain ⟨place, -, rfl⟩ := List.mem_map.mp inside
    exact isLine_print place

namespace Parser

/-- Each position line below a header is one problem. -/
theorem readBelow_places (file header : Bytes) (places : List Place) (rest : List Bytes) :
    ({} : Parser).readBelow file header (places.map Place.print ++ rest) =
      places.map (fun place =>
        { file, line := place.line, column := place.column, message := header }) ++
        ({} : Parser).readBelow file header rest := by
  induction places with
  | nil => rfl
  | cons place places ih =>
    have found := Position.scan?_print place
    have indented : ({} : Parser).indent <+: place.print := blockIndent_isPrefix found
    have record : ({} : Parser).recordOf? file header place.print =
        some { file, line := place.line, column := place.column, message := header } := by
      rw [recordOf?]
      exact congrArg (Option.map _) found
    rw [List.map_cons, List.cons_append, readBelow_cons_of_indented indented, record, ih]
    rfl

/-- Entries whose headers lack the indentation are read as they are, below any header. -/
theorem readBelow_entries (file : Bytes) (entries : List Entry)
    (apart : ∀ entry ∈ entries, ¬ blockIndent <+: entry.header) (header : Bytes) :
    ({} : Parser).readBelow file header (entries.flatMap Entry.print) =
      entries.flatMap (Entry.records file) := by
  induction entries generalizing header with
  | nil => rfl
  | cons entry entries ih =>
    have unindented : ¬ ({} : Parser).indent <+: entry.header := apart entry List.mem_cons_self
    have later := ih (List.forall_mem_of_forall_mem_cons apart) entry.header
    rw [List.flatMap_cons, Entry.print, List.cons_append, readBelow_cons_of_header unindented,
      readBelow_places, later]
    rfl

theorem readLines_entries (file : Bytes) (entries : List Entry)
    (apart : ∀ entry ∈ entries.tail, ¬ blockIndent <+: entry.header) :
    ({} : Parser).readLines file (entries.flatMap Entry.print) =
      entries.flatMap (Entry.records file) := by
  cases entries with
  | nil => rfl
  | cons entry entries =>
    have below := readBelow_places file entry.header entry.places (entries.flatMap Entry.print)
    rw [readBelow_entries file entries apart] at below
    exact below

/-- A report is read back from its text: every place is one problem, in order, under its header.
Each line may have either ending, and the last line may have none.  Only the first header may
keep the indentation. -/
theorem parse_writeLines (entries : List Entry)
    (apart : ∀ entry ∈ entries.tail, ¬ blockIndent <+: entry.header)
    (ends : Nat → LineEnd) (closed : Bool) (file : Bytes) :
    ({} : Parser).parse (writeLines ends closed (entries.flatMap Entry.print)) file =
      entries.flatMap (Entry.records file) := by
  rw [parse_writeLines_eq_readLines isLine_entries ends closed file]
  exact readLines_entries file entries apart

/-- An indented header with two places, an empty header with none, and a header with one. -/
def mixedEntries : List Entry :=
  [{ header := utf8 "    first:1:1"
     places :=
      [{ path := utf8 "./a:7:8.cue", line := 9, column := 31, unbroken := by decide
         line_pos := by decide, line_le := by decide, column_pos := by decide
         column_le := by decide },
       { path := utf8 "\r: 4:", line := Position.limit, column := 1, unbroken := by decide
         line_pos := by decide, line_le := by decide, column_pos := by decide
         column_le := by decide }]
     isLine := ⟨by decide, by decide⟩ },
   { header := [], places := [], isLine := ⟨by decide, by decide⟩ },
   { header := utf8 "  last"
     places :=
      [{ path := [], line := 2, column := 10, unbroken := by decide, line_pos := by decide
         line_le := by decide, column_pos := by decide, column_le := by decide }]
     isLine := ⟨by decide, by decide⟩ }]

theorem mixedEntries_apart :
    ∀ entry ∈ mixedEntries.tail, ¬ blockIndent <+: entry.header := by decide

/-- The text of the entries.  The lines are ended by either ending in turn, the last by none. -/
def mixedText : Bytes :=
  utf8 "    first:1:1\r\n    ./a:7:8.cue:9:31\n    \r: 4::2147483647:1\r\n" ++
    utf8 "\n  last\r\n    :2:10"

theorem writeLines_mixedEntries :
    writeLines (fun i => if i % 2 = 0 then .crlf else .lf) false
      (mixedEntries.flatMap Entry.print) = mixedText := by
  decide +kernel

theorem parse_mixedText :
    (∀ entry ∈ mixedEntries.tail, ¬ blockIndent <+: entry.header) ∧
      ({} : Parser).parse mixedText (utf8 "x.cue") =
        [⟨utf8 "x.cue", 9, 31, utf8 "    first:1:1"⟩,
          ⟨utf8 "x.cue", 2147483647, 1, utf8 "    first:1:1"⟩,
          ⟨utf8 "x.cue", 2, 10, utf8 "  last"⟩] := by
  refine ⟨mixedEntries_apart, ?_⟩
  rw [← writeLines_mixedEntries]
  exact parse_writeLines mixedEntries mixedEntries_apart _ false (utf8 "x.cue")

end Parser

end Diagnostics

end CueFront
