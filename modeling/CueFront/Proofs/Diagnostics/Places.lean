import CueFront.Proofs.Diagnostics.Position

/-!
# Position lines by place

A line can be read where it stands, without taking it apart: look for the last colon from the end,
then for the last colon in front of that one, and compare what is around them.  `scanAt` reads so.
It checks every place before it looks there.  A place outside the line, or a range that ends in
front of its start, ends the reading with an error.

It never comes to that.  `scanAt_eq` says that reading in place gives on every line what `scan?`
gives.  The two searches need one fact each.  The last colon behind the indentation is the last
colon of the line, since the indentation holds none (`splitLast?_append_left`).  And a search from
the end that looks at one byte after the other finds the cut of `splitLast?`
(`lastBefore?_eq`).

`scan?_iff_isCut` says the whole: which lines are accepted and with which numbers, that a line is
cut in one way, and that reading it in place keeps to the line.
-/

namespace CueFront

namespace Bytes

/-- A search for the last separator looks at the last byte first. -/
theorem splitLast?_concat (sep : UInt8) (text : Bytes) (b : UInt8) :
    splitLast? sep (text ++ [b]) =
      if b == sep then some (text, [])
      else (splitLast? sep text).map fun cut => (cut.1, cut.2 ++ [b]) := by
  by_cases same : b = sep
  · subst same
    rw [beq_self_eq_true, if_pos rfl]
    exact splitLast?_append List.not_mem_nil
  · rw [if_neg (by simpa using same)]
    by_cases present : sep ∈ text
    · obtain ⟨front, back, rfl, absent⟩ := exists_last present
      have absent' : sep ∉ back ++ [b] := by simp [absent, Ne.symm same]
      rw [splitLast?_append absent, List.append_assoc, List.cons_append,
        splitLast?_append absent']
      rfl
    · have absent : sep ∉ text ++ [b] := by simp [present, Ne.symm same]
      rw [splitLast?_eq_none present, splitLast?_eq_none absent]
      rfl

/-- Text without the separator in front of a text does not change where it is cut. -/
theorem splitLast?_append_left {sep : UInt8} {lead : Bytes} (absent : sep ∉ lead) (text : Bytes) :
    splitLast? sep (lead ++ text) =
      (splitLast? sep text).map fun cut => (lead ++ cut.1, cut.2) := by
  by_cases present : sep ∈ text
  · obtain ⟨front, back, rfl, last⟩ := exists_last present
    rw [splitLast?_append last, ← List.append_assoc, splitLast?_append last]
    rfl
  · have absent' : sep ∉ lead ++ text := by simp [absent, present]
    rw [splitLast?_eq_none present, splitLast?_eq_none absent']
    rfl

end Bytes

namespace Diagnostics

namespace Position

/-! ## Reading in place -/

/-- A place that is not in the line. -/
structure Outside where
  /-- The place, counted from zero.  In front of the line it is negative. -/
  place : Int
deriving DecidableEq, Repr

/-- The byte at a place. -/
def byteAt (text : Bytes) (place : Nat) : Except Outside UInt8 :=
  match text[place]? with
  | some b => .ok b
  | none => .error ⟨place⟩

/-- The bytes from a place up to the place `stop`, which is not among them. -/
def between (line : Bytes) (first stop : Nat) : Except Outside Bytes :=
  if line.length < stop then .error ⟨stop⟩
  else if stop < first then .error ⟨first⟩
  else .ok ((line.take stop).drop first)

/-- The place in front of a place. -/
def placeBefore : Nat → Except Outside Nat
  | 0 => .error ⟨-1⟩
  | place + 1 => .ok place

/-- The last place in front of `stop` that holds the separator, searched from `stop` on. -/
def lastBefore? (sep : UInt8) (text : Bytes) : Nat → Except Outside (Option Nat)
  | 0 => .ok none
  | stop + 1 => do
    let b ← byteAt text stop
    if b == sep then return some stop
    else lastBefore? sep text stop

/-- Reads the numbers of a line whose last colon is known. -/
def numbersAt (line : Bytes) (columnColon : Nat) : Except Outside (Option Position) := do
  let column ← between line (columnColon + 1) line.length
  if !Decimal.isNumeral column then return none
  else
    let last ← placeBefore columnColon
    match ← lastBefore? Byte.colon line (last + 1) with
    | none => return none
    | some lineColon =>
      if lineColon < indent.length then return none
      else
        let row ← between line (lineColon + 1) columnColon
        if !Decimal.isNumeral row then return none
        else return (readOrdinal? row).bind fun l => (readOrdinal? column).bind fun c => some ⟨l, c⟩

/-- Reads a position line in place. -/
def scanAt (line : Bytes) : Except Outside (Option Position) := do
  let front ← between line 0 (min indent.length line.length)
  if front != indent then return none
  else
    match ← lastBefore? Byte.colon line line.length with
    | none => return none
    | some columnColon =>
      if columnColon ≤ indent.length then return none
      else numbersAt line columnColon

/-! ## Reading in place keeps to the line -/

theorem byteAt_of_lt {text : Bytes} {place : Nat} (inside : place < text.length) :
    byteAt text place = .ok text[place] := by
  rw [byteAt, List.getElem?_eq_getElem inside]

theorem between_of_le {line : Bytes} {first stop : Nat} (ordered : first ≤ stop)
    (inside : stop ≤ line.length) :
    between line first stop = .ok ((line.take stop).drop first) := by
  rw [between, if_neg (Nat.not_lt.mpr inside), if_neg (Nat.not_lt.mpr ordered)]

/-- A range of a line that is made of three texts. -/
theorem between_append (before text after : Bytes) {first stop : Nat}
    (starts : first = before.length) (stops : stop = first + text.length) :
    between (before ++ (text ++ after)) first stop = .ok text := by
  subst starts stops
  rw [between_of_le (by simp) (by simp), ← List.append_assoc, ← List.length_append, List.take_left,
    List.drop_left]

theorem placeBefore_of_pos {place : Nat} (inside : 0 < place) :
    placeBefore place = .ok (place - 1) := by
  cases place with
  | zero => cases inside
  | succ place => rfl

/-- The search from the end finds the cut at the last separator. -/
theorem lastBefore?_eq (sep : UInt8) {text : Bytes} {stop : Nat} (inside : stop ≤ text.length) :
    lastBefore? sep text stop =
      .ok ((Bytes.splitLast? sep (text.take stop)).map fun cut => cut.1.length) := by
  induction stop with
  | zero => rfl
  | succ stop ih =>
    have step : lastBefore? sep text (stop + 1) =
        if text[stop] == sep then .ok (some stop) else lastBefore? sep text stop := by
      rw [lastBefore?, byteAt_of_lt inside]
      rfl
    rw [step, List.take_succ_eq_append_getElem inside, Bytes.splitLast?_concat]
    split
    · simp [Nat.le_of_lt inside]
    · rw [ih (Nat.le_of_lt inside), Option.map_map]
      rfl

theorem readOrdinal?_eq_none {text : Bytes} (other : ¬ Decimal.isNumeral text = true) :
    readOrdinal? text = none :=
  Option.eq_none_iff_forall_ne_some.mpr fun _ read => other (isNumeral_of_readOrdinal? read)

section Parts

variable (front path row column : Bytes)

theorem between_column : between (indent ++ (front ++ Byte.colon :: column))
    ((indent ++ front).length + 1) (indent ++ (front ++ Byte.colon :: column)).length =
      .ok column := by
  have parts : indent ++ (front ++ Byte.colon :: column) =
      (indent ++ front ++ [Byte.colon]) ++ (column ++ []) := by simp
  rw [parts]
  exact between_append _ column [] (by simp [Nat.add_assoc]) (by simp; omega)

theorem between_row : between (indent ++ (path ++ Byte.colon :: row ++ Byte.colon :: column))
    ((indent ++ path).length + 1) (indent ++ (path ++ Byte.colon :: row)).length = .ok row := by
  have parts : indent ++ (path ++ Byte.colon :: row ++ Byte.colon :: column) =
      (indent ++ path ++ [Byte.colon]) ++ (row ++ Byte.colon :: column) := by simp
  rw [parts]
  exact between_append _ row _ (by simp [Nat.add_assoc]) (by simp; omega)

/-- No colon is found in the indentation. -/
theorem lastBefore?_indent (rest : Bytes) :
    lastBefore? Byte.colon (indent ++ (front ++ rest)) (indent ++ front).length =
      .ok ((Bytes.splitLast? Byte.colon front).map fun cut => (indent ++ cut.1).length) := by
  rw [lastBefore?_eq _ (by simp), ← List.append_assoc, List.take_left,
    Bytes.splitLast?_append_left (by decide), Option.map_map]
  rfl

end Parts

/-- The numbers around the last colon are read in place. -/
theorem numbersAt_eq (front column : Bytes) :
    numbersAt (indent ++ (front ++ Byte.colon :: column)) (indent ++ front).length =
      .ok ((Bytes.splitLast? Byte.colon front).bind fun cut =>
        (readOrdinal? cut.2).bind fun row => (readOrdinal? column).bind fun column =>
          some ⟨row, column⟩) := by
  rw [numbersAt, between_column]
  by_cases columnNumeral : Decimal.isNumeral column = true
  · have last : placeBefore (indent ++ front).length = .ok ((indent ++ front).length - 1) :=
      placeBefore_of_pos (by simp [indent])
    have upTo : (indent ++ front).length - 1 + 1 = (indent ++ front).length := by simp [indent]
    simp only [bind, Except.bind, columnNumeral, last, upTo, lastBefore?_indent]
    cases found : Bytes.splitLast? Byte.colon front with
    | none => rfl
    | some cut =>
      obtain ⟨path, row⟩ := cut
      obtain ⟨rfl, -⟩ := Bytes.splitLast?_eq_some.mp found
      have behind : ¬ (indent ++ path).length < indent.length := by simp
      simp only [Option.map_some, Option.bind_some, between_row, if_neg behind]
      by_cases rowNumeral : Decimal.isNumeral row = true
      · simp only [rowNumeral]
        rfl
      · simp only [rowNumeral, readOrdinal?_eq_none rowNumeral]
        rfl
  · simp only [bind, Except.bind, columnNumeral, readOrdinal?_eq_none columnNumeral]
    simp [pure, Except.pure]

/-- Reading in place keeps to the line, and gives what taking the line apart gives. -/
theorem scanAt_eq (line : Bytes) : scanAt line = .ok (scan? line) := by
  have front : between line 0 (min indent.length line.length) = .ok (line.take indent.length) := by
    rw [between_of_le (Nat.zero_le _) (Nat.min_le_right _ _)]
    simp
  by_cases indented : indent <+: line
  · obtain ⟨body, rfl⟩ := indented
    have found : lastBefore? Byte.colon (indent ++ body) (indent ++ body).length =
        .ok ((Bytes.splitLast? Byte.colon body).map fun cut => (indent ++ cut.1).length) := by
      have searched := lastBefore?_indent body []
      rwa [List.append_nil] at searched
    rw [scan?_indent, scanAt, front, List.take_left, found]
    cases cut : Bytes.splitLast? Byte.colon body with
    | none => rfl
    | some parts =>
      obtain ⟨path, column⟩ := parts
      obtain ⟨rfl, -⟩ := Bytes.splitLast?_eq_some.mp cut
      simp only [bind, Except.bind, bne_self_eq_false, Option.map_some, Option.bind_some]
      cases path with
      | nil => rfl
      | cons b path =>
        have behind : ¬ (indent ++ b :: path).length ≤ indent.length := by simp
        simp only [if_neg behind]
        exact numbersAt_eq (b :: path) column
  · have different : (line.take indent.length != indent) = true := by
      rw [bne_iff_ne]
      intro same
      exact indented (same ▸ List.take_prefix _ _)
    rw [scan?_unindented indented, scanAt, front]
    simp only [bind, Except.bind, different, if_true]
    rfl

/-! ## The grammar -/

/-- The line is four spaces, a path, a colon, digits, a colon, digits. -/
structure IsCut (line path row column : Bytes) : Prop where
  /-- How the line is written. -/
  written : line = utf8 "    " ++ path ++ utf8 ":" ++ row ++ utf8 ":" ++ column
  /-- The first number has digits, and nothing else. -/
  row_digits : row ≠ [] ∧ ∀ b ∈ row, Byte.isDigit b = true
  /-- The second number has digits, and nothing else. -/
  column_digits : column ≠ [] ∧ ∀ b ∈ column, Byte.isDigit b = true

variable {line path row column : Bytes}

theorem isCut_iff : IsCut line path row column ↔
    line = indent ++ (path ++ Byte.colon :: row ++ Byte.colon :: column) ∧
      Decimal.isNumeral row = true ∧ Decimal.isNumeral column = true := by
  have spelled : utf8 "    " ++ path ++ utf8 ":" ++ row ++ utf8 ":" ++ column =
      indent ++ (path ++ Byte.colon :: row ++ Byte.colon :: column) := by
    have spaces : utf8 "    " = indent := rfl
    have colon : utf8 ":" = [Byte.colon] := rfl
    simp [spaces, colon]
  rw [Decimal.isNumeral_iff_digits, Decimal.isNumeral_iff_digits, ← spelled]
  exact ⟨fun cut => ⟨cut.written, cut.row_digits, cut.column_digits⟩,
    fun ⟨written, rowDigits, columnDigits⟩ => ⟨written, rowDigits, columnDigits⟩⟩

/-- There is one way to cut a line, the path included. -/
theorem IsCut.unique {path' row' column' : Bytes} (cut : IsCut line path row column)
    (cut' : IsCut line path' row' column') : path = path' ∧ row = row' ∧ column = column' := by
  obtain ⟨written, numerals⟩ := isCut_iff.mp cut
  obtain ⟨written', numerals'⟩ := isCut_iff.mp cut'
  have reads : IsPosition line row column := ⟨path, written, numerals⟩
  have reads' : IsPosition line row' column' := ⟨path', written', numerals'⟩
  obtain ⟨rfl, rfl⟩ := reads.unique reads'
  rw [written] at written'
  simpa using written'

/-- What a position line is.

* A line is read as two numbers exactly if it is four spaces, any path, and the two numbers behind
  a colon each, in digits, with any number of zeros in front; both lie between one and the limit.
* A line is cut in one way.
* Reading a line in place never looks outside the line, and gives the same. -/
theorem scan?_iff_isCut (line : Bytes) :
    (∀ l c, scan? line = some ⟨l, c⟩ ↔
      ∃ path row column, IsCut line path row column ∧
        Decimal.value row = l ∧ Decimal.value column = c ∧
        (1 ≤ l ∧ l ≤ 2147483647) ∧ 1 ≤ c ∧ c ≤ 2147483647) ∧
    (∀ path row column path' row' column', IsCut line path row column →
      IsCut line path' row' column' → path = path' ∧ row = row' ∧ column = column') ∧
    scanAt line = .ok (scan? line) := by
  refine ⟨fun l c => ?_, fun _ _ _ _ _ _ cut cut' => cut.unique cut', scanAt_eq line⟩
  simp only [scan?_eq_some, readOrdinal?_eq_some]
  constructor
  · rintro ⟨row, column, ⟨path, written, numerals⟩, ⟨-, sameRow, fits⟩, -, sameColumn, fits'⟩
    exact ⟨path, row, column, isCut_iff.mpr ⟨written, numerals⟩, sameRow, sameColumn, fits, fits'⟩
  · rintro ⟨path, row, column, cut, sameRow, sameColumn, fits, fits'⟩
    obtain ⟨written, rowNumeral, columnNumeral⟩ := isCut_iff.mp cut
    exact ⟨row, column, ⟨path, written, rowNumeral, columnNumeral⟩, ⟨rowNumeral, sameRow, fits⟩,
      columnNumeral, sameColumn, fits'⟩

/-- The path holds two colons and a number, and zeros stand in front of the line. -/
def colonLine : Bytes := utf8 "    ./a:9:b:007:2147483647"

/-- It is read from its end, and the path cannot end sooner. -/
theorem colonLine_read :
    IsCut colonLine (utf8 "./a:9:b") (utf8 "007") (utf8 "2147483647") ∧
      scan? colonLine = some ⟨7, 2147483647⟩ ∧ scanAt colonLine = .ok (some ⟨7, 2147483647⟩) ∧
      ¬ IsCut colonLine (utf8 "./a") (utf8 "9:b:007") (utf8 "2147483647") := by
  have cut : IsCut colonLine (utf8 "./a:9:b") (utf8 "007") (utf8 "2147483647") :=
    isCut_iff.mpr ⟨rfl, by decide, by decide⟩
  obtain ⟨read, unique, inPlace⟩ := scan?_iff_isCut colonLine
  have accepted : scan? colonLine = some ⟨7, 2147483647⟩ :=
    (read 7 2147483647).mpr ⟨_, _, _, cut, by decide, by decide, by decide, by decide⟩
  refine ⟨cut, accepted, inPlace.trans (congrArg _ accepted), fun other => ?_⟩
  obtain ⟨same, -⟩ := unique _ _ _ _ _ _ cut other
  exact absurd same (by decide)

end Position

end Diagnostics

end CueFront
