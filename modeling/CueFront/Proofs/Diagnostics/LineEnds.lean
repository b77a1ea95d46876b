import CueFront.Proofs.Diagnostics.RoundTrip

/-!
# Line endings and blank lines at the end

A carriage return in front of a line feed belongs to the line ending, so a text may get one in front
of any line feed that has none, and keeps its lines (`rawLines_addReturns`).  Line endings behind
the last line are blank lines (`rawLines_append_ends`), which are dropped.  They must not stand
behind a carriage return at the end of the text, which would turn from a byte of the last line into
a part of its ending.
-/

namespace CueFront

namespace Diagnostics

/-! ## Added carriage returns -/

/-- The line ending that a line feed becomes behind a byte: it gets a carriage return if it is
chosen and has none. -/
def endAfter (chosen : Bool) (previous : Option UInt8) : LineEnd :=
  if chosen && previous != some Byte.carriageReturn then .crlf else .lf

/-- The text behind a byte, with a carriage return in front of each chosen line feed that has
none. -/
def addReturnsAfter (previous : Option UInt8) (chosen : Nat → Bool) : Bytes → Bytes
  | [] => []
  | b :: rest =>
    if b = Byte.lineFeed then
      (endAfter (chosen 0) previous).bytes ++
        addReturnsAfter (some b) (fun i => chosen (i + 1)) rest
    else b :: addReturnsAfter (some b) chosen rest

/-- The text with a carriage return in front of each line feed `i` that is chosen and has none. -/
def addReturns (chosen : Nat → Bool) (text : Bytes) : Bytes := addReturnsAfter none chosen text

theorem addReturnsAfter_unterminated {line : Bytes} (unbroken : Byte.lineFeed ∉ line)
    (previous : Option UInt8) (chosen : Nat → Bool) :
    addReturnsAfter previous chosen line = line := by
  induction line generalizing previous with
  | nil => rfl
  | cons b line ih =>
    have other : b ≠ Byte.lineFeed := (List.ne_of_not_mem_cons unbroken).symm
    rw [addReturnsAfter, if_neg other, ih (List.not_mem_of_not_mem_cons unbroken)]

/-- The line feed that ends the first line stands behind the last byte of the line, or behind what
stands in front of it. -/
theorem addReturnsAfter_terminated {line : Bytes} (unbroken : Byte.lineFeed ∉ line)
    (previous : Option UInt8) (chosen : Nat → Bool) (rest : Bytes) :
    addReturnsAfter previous chosen (line ++ Byte.lineFeed :: rest) =
      line ++ (endAfter (chosen 0) (line.getLast?.or previous)).bytes ++
        addReturnsAfter (some Byte.lineFeed) (fun i => chosen (i + 1)) rest := by
  induction line generalizing previous with
  | nil => rw [List.nil_append, addReturnsAfter, if_pos rfl]; rfl
  | cons b line ih =>
    have other : b ≠ Byte.lineFeed := (List.ne_of_not_mem_cons unbroken).symm
    have last : (b :: line).getLast?.or previous = line.getLast?.or (some b) := by
      rw [List.getLast?_cons, Option.or_some]
      rfl
    rw [List.cons_append, addReturnsAfter, if_neg other,
      ih (List.not_mem_of_not_mem_cons unbroken), last]
    rfl

/-- A line comes back from the ending that its line feed becomes. -/
theorem rawLines_endAfter {line : Bytes} (unbroken : Byte.lineFeed ∉ line) (chosen : Bool)
    (previous : Option UInt8) (rest : Bytes) :
    rawLines (line ++ (endAfter chosen (line.getLast?.or previous)).bytes ++ rest) =
      stripReturn line :: rawLines rest := by
  cases ending : endAfter chosen (line.getLast?.or previous) with
  | lf =>
    rw [List.append_assoc]
    exact rawLines_terminated unbroken rest
  | crlf =>
    have bare : line.getLast? ≠ some Byte.carriageReturn := by
      intro ended
      simp [endAfter, ended] at ending
    rw [stripReturn_of_ne bare]
    exact rawLines_ended ⟨unbroken, bare⟩ .crlf rest

theorem rawLines_addReturnsAfter (previous : Option UInt8) (chosen : Nat → Bool) (text : Bytes) :
    rawLines (addReturnsAfter previous chosen text) = rawLines text := by
  induction text using line_induction generalizing previous chosen with
  | last line unbroken => rw [addReturnsAfter_unterminated unbroken]
  | ended line rest unbroken ih =>
    rw [addReturnsAfter_terminated unbroken, rawLines_endAfter unbroken, ih,
      rawLines_terminated unbroken]

/-- Carriage returns that are added in front of line feeds leave the lines as they are. -/
theorem rawLines_addReturns (chosen : Nat → Bool) (text : Bytes) :
    rawLines (addReturns chosen text) = rawLines text :=
  rawLines_addReturnsAfter none chosen text

/-- Either line ending ends in a line feed. -/
theorem getLast?_bytes (ending : LineEnd) : ending.bytes.getLast? = some Byte.lineFeed := by
  cases ending with
  | lf => rfl
  | crlf => rfl

theorem getLast?_addReturnsAfter (previous : Option UInt8) (chosen : Nat → Bool) (text : Bytes) :
    (addReturnsAfter previous chosen text).getLast? = text.getLast? := by
  induction text generalizing previous chosen with
  | nil => rfl
  | cons b rest ih =>
    rw [addReturnsAfter, List.getLast?_cons]
    split
    · next same => rw [List.getLast?_append, ih, getLast?_bytes, same, Option.or_some]
    · rw [List.getLast?_cons, ih]

/-! ## Line endings at the end -/

theorem rawLines_ends (ends : List LineEnd) :
    rawLines (ends.flatMap LineEnd.bytes) = List.replicate (ends.length + 1) [] := by
  have blank : IsLine [] := ⟨by decide, by decide⟩
  induction ends with
  | nil => rfl
  | cons ending ends ih =>
    have split := rawLines_ended blank ending (ends.flatMap LineEnd.bytes)
    rw [ih] at split
    exact split

/-- Line endings at the end are as many blank lines, unless the first of them is put behind a
carriage return. -/
theorem rawLines_append_ends {text : Bytes} (bare : text.getLast? ≠ some Byte.carriageReturn)
    (ends : List LineEnd) :
    rawLines (text ++ ends.flatMap LineEnd.bytes) =
      rawLines text ++ List.replicate ends.length [] := by
  induction text using line_induction with
  | last line unbroken =>
    rw [rawLines_unterminated unbroken]
    cases ends with
    | nil =>
      rw [List.flatMap_nil, List.append_nil]
      exact rawLines_unterminated unbroken
    | cons ending ends =>
      rw [List.flatMap_cons, ← List.append_assoc, rawLines_ended ⟨unbroken, bare⟩, rawLines_ends]
      rfl
  | ended line rest unbroken ih =>
    have later : rest.getLast? ≠ some Byte.carriageReturn := by
      intro ended
      rw [List.getLast?_append, List.getLast?_cons, ended] at bare
      exact bare rfl
    rw [List.append_assoc, List.cons_append, rawLines_terminated unbroken, ih later,
      rawLines_terminated unbroken]
    rfl

theorem dropBlankTail_append_replicate (lines : List Bytes) (count : Nat) :
    dropBlankTail (lines ++ List.replicate count []) = dropBlankTail lines := by
  induction count with
  | zero => rw [List.replicate_zero, List.append_nil]
  | succ count ih =>
    rw [List.replicate_succ', ← List.append_assoc, dropBlankTail_concat]
    exact ih

theorem splitLines_append_ends {text : Bytes} (bare : text.getLast? ≠ some Byte.carriageReturn)
    (ends : List LineEnd) :
    splitLines (text ++ ends.flatMap LineEnd.bytes) = splitLines text := by
  rw [splitLines_eq, rawLines_append_ends bare, dropBlankTail_append_replicate, splitLines_eq]

/-! ## The law -/

/-- The text with a carriage return in front of the chosen line feeds, and some line endings behind
it. -/
def respell (chosen : Nat → Bool) (ends : List LineEnd) (text : Bytes) : Bytes :=
  addReturns chosen text ++ ends.flatMap LineEnd.bytes

theorem splitLines_respell (chosen : Nat → Bool) {ends : List LineEnd} {text : Bytes}
    (apart : ends = [] ∨ text.getLast? ≠ some Byte.carriageReturn) :
    splitLines (respell chosen ends text) = splitLines text := by
  have same : splitLines (addReturns chosen text) = splitLines text :=
    congrArg dropBlankTail (rawLines_addReturns chosen text)
  rcases apart with rfl | bare
  · rw [respell, List.flatMap_nil, List.append_nil, same]
  · have stillBare : (addReturns chosen text).getLast? ≠ some Byte.carriageReturn :=
      (getLast?_addReturnsAfter none chosen text).trans_ne bare
    rw [respell, splitLines_append_ends stillBare, same]

namespace Parser

/-- Any mixture of the two line endings gives the same lines, blocks and problems, and so do line
endings behind a text that does not end in a carriage return. -/
theorem parse_respell (chosen : Nat → Bool) {ends : List LineEnd} {text : Bytes}
    (apart : ends = [] ∨ text.getLast? ≠ some Byte.carriageReturn) (parser : Parser)
    (file : Bytes) :
    splitLines (respell chosen ends text) = splitLines text ∧
      parser.group (respell chosen ends text) = parser.group text ∧
      parser.parse (respell chosen ends text) file = parser.parse text file := by
  have lines := splitLines_respell chosen apart
  have blocks : parser.group (respell chosen ends text) = parser.group text := by
    rw [group, groupLines, lines, group, groupLines]
  refine ⟨lines, blocks, ?_⟩
  rw [parse, blocks, parse]

/-- A text in which one line feed has a carriage return and one line ends in two. -/
def mixedEnds : Bytes := utf8 "m:\n    a:1:2\r\nn\r\r\n"

theorem parse_respell_mixedEnds :
    ([LineEnd.crlf, .lf] = [] ∨ mixedEnds.getLast? ≠ some Byte.carriageReturn) ∧
      respell (fun i => i ≤ 1) [.crlf, .lf] mixedEnds =
        utf8 "m:\r\n    a:1:2\r\nn\r\r\n\r\n\n" ∧
      splitLines (utf8 "m:\r\n    a:1:2\r\nn\r\r\n\r\n\n") =
        [utf8 "m:", utf8 "    a:1:2", utf8 "n\r"] ∧
      ({} : Parser).parse (utf8 "m:\r\n    a:1:2\r\nn\r\r\n\r\n\n") (utf8 "x.cue") =
        [⟨utf8 "x.cue", 1, 2, utf8 "m:"⟩] := by
  have apart : [LineEnd.crlf, .lf] = [] ∨ mixedEnds.getLast? ≠ some Byte.carriageReturn := by
    decide
  have spelled : respell (fun i => i ≤ 1) [.crlf, .lf] mixedEnds =
      utf8 "m:\r\n    a:1:2\r\nn\r\r\n\r\n\n" := by decide
  obtain ⟨lines, -, problems⟩ := parse_respell (fun i => i ≤ 1) apart {} (utf8 "x.cue")
  rw [spelled] at lines problems
  exact ⟨apart, spelled, lines.trans (by decide), problems.trans (by decide +kernel)⟩

end Parser

end Diagnostics

end CueFront
