import CueFront.Proofs.Diagnostics.LineEnds

/-!
# The lines of a text and what stands between them

A text is its lines, what ends each of them, and a blank tail.  `Layout` is such a reading: it says
where a text may be cut, and its text is put together again from the pieces, so nothing but the line
endings and the tail is missing from the lines.  Every text has a layout (`exists_layout`), and
whatever the layout, its lines are those that `splitLines` finds (`Layout.splitLines_text`).

A carriage return in front of a line feed belongs to the line ending (`Line.bare`), and a blank line
at the end belongs to the tail (`Layout.solid`).  Without either rule a text would have several
readings.
-/

namespace CueFront

namespace Diagnostics

/-! ## Layouts -/

/-- A line of a text and what ends it. -/
structure Line where
  /-- The bytes of the line. -/
  content : Bytes
  /-- What ends the line, unless the text ends in it. -/
  ending : Option LineEnd
  /-- A line feed would end the line. -/
  unbroken : Byte.lineFeed ∉ content
  /-- A carriage return in front of a line feed is no part of the line. -/
  bare : ending = some .lf → content.getLast? ≠ some Byte.carriageReturn

/-- The bytes of a line and of what ends it. -/
def Line.text (line : Line) : Bytes := line.content ++ line.ending.elim [] LineEnd.bytes

/-- A reading of a text: its lines, and the line endings of the blank lines behind them. -/
structure Layout where
  /-- The lines. -/
  lines : List Line
  /-- The blank tail. -/
  tail : List LineEnd
  /-- Every line but the last is ended. -/
  ended : ∀ line ∈ lines.dropLast, line.ending ≠ none
  /-- The last line is ended if a blank tail follows. -/
  last_ended : tail ≠ [] → ∀ line ∈ lines.getLast?, line.ending ≠ none
  /-- The last line is not blank. -/
  solid : ∀ line ∈ lines.getLast?, line.content ≠ []

namespace Layout

/-- The text that is read. -/
def text (layout : Layout) : Bytes :=
  layout.lines.flatMap Line.text ++ layout.tail.flatMap LineEnd.bytes

/-- What the lines hold. -/
def contents (layout : Layout) : List Bytes := layout.lines.map Line.content

end Layout

/-! ## The lines of a layout -/

theorem Line.rawLines_text_append {line : Line} (ended : line.ending ≠ none) (rest : Bytes) :
    rawLines (line.text ++ rest) = line.content :: rawLines rest := by
  obtain ⟨ending, ends⟩ := Option.ne_none_iff_exists'.mp ended
  have bare : ending = .lf → line.content.getLast? ≠ some Byte.carriageReturn := by
    rintro rfl
    exact line.bare ends
  rw [text, ends]
  exact rawLines_lineEnd line.unbroken bare rest

theorem rawLines_flatMap_text_append {lines : List Line}
    (ended : ∀ line ∈ lines, line.ending ≠ none) (rest : Bytes) :
    rawLines (lines.flatMap Line.text ++ rest) = lines.map Line.content ++ rawLines rest := by
  induction lines with
  | nil => rfl
  | cons line lines ih =>
    obtain ⟨here, later⟩ := List.forall_mem_cons.mp ended
    rw [List.flatMap_cons, List.append_assoc, Line.rawLines_text_append here, ih later]
    rfl

/-- The last line and the tail are read as the line and blank lines. -/
theorem Line.rawLines_text_tail {line : Line} {tail : List LineEnd}
    (ended : tail ≠ [] → line.ending ≠ none) :
    ∃ count, rawLines (line.text ++ tail.flatMap LineEnd.bytes) =
      line.content :: List.replicate count [] := by
  by_cases open_ : line.ending = none
  · obtain rfl : tail = [] := not_not.mp fun follows => ended follows open_
    refine ⟨0, ?_⟩
    rw [text, open_, Option.elim_none, List.flatMap_nil, List.append_nil, List.append_nil]
    exact rawLines_unterminated line.unbroken
  · exact ⟨tail.length + 1, by rw [rawLines_text_append open_, rawLines_ends]⟩

/-- The lines of a layout are the lines of its text. -/
theorem Layout.splitLines_text (layout : Layout) : splitLines layout.text = layout.contents := by
  obtain ⟨lines, tail, ended, lastEnded, solid⟩ := layout
  simp only [text, contents]
  rcases List.eq_nil_or_concat lines with rfl | ⟨front, last, rfl⟩
  · rw [List.flatMap_nil, List.nil_append, splitLines_eq, rawLines_ends, ← List.nil_append
      (List.replicate _ _), dropBlankTail_append_replicate]
    rfl
  · rw [List.concat_eq_append, List.dropLast_concat] at ended
    rw [List.concat_eq_append, List.getLast?_concat] at lastEnded solid
    have nonblank : ¬ last.content.isEmpty := by simpa using solid last rfl
    obtain ⟨count, behind⟩ := Line.rawLines_text_tail fun follows => lastEnded follows last rfl
    rw [List.concat_eq_append, List.flatMap_append, List.flatMap_singleton, List.append_assoc,
      splitLines_eq, rawLines_flatMap_text_append ended, behind, List.map_append,
      ← List.singleton_append, ← List.append_assoc, dropBlankTail_append_replicate,
      dropBlankTail_concat, if_neg nonblank]
    rfl

/-! ## The layout of a text -/

/-- The line feed behind a line ends it, alone or with a carriage return in front of it. -/
theorem exists_line {line : Bytes} (unbroken : Byte.lineFeed ∉ line) :
    ∃ ended : Line, ended.ending ≠ none ∧ ended.text = line ++ [Byte.lineFeed] := by
  by_cases returned : line.getLast? = some Byte.carriageReturn
  · obtain ⟨content, rfl⟩ := List.getLast?_eq_some_iff.mp returned
    have inner : Byte.lineFeed ∉ content := fun inside => unbroken (List.mem_append_left _ inside)
    exact ⟨⟨content, some .crlf, inner, nofun⟩, nofun, by simp [Line.text, LineEnd.bytes]⟩
  · exact ⟨⟨line, some .lf, unbroken, fun _ => returned⟩, nofun, rfl⟩

/-- A line that is ended goes in front of a layout: to its tail if it is blank and only the tail
follows, and else to its lines. -/
theorem Layout.exists_cons {line : Line} (ended : line.ending ≠ none) (layout : Layout) :
    ∃ longer : Layout, longer.text = line.text ++ layout.text := by
  obtain ⟨lines, tail, others, lastEnded, solid⟩ := layout
  cases lines with
  | nil =>
    by_cases blank : line.content = []
    · obtain ⟨ending, ends⟩ := Option.ne_none_iff_exists'.mp ended
      exact ⟨⟨[], ending :: tail, nofun, nofun, nofun⟩, by simp [text, Line.text, blank, ends]⟩
    · refine ⟨⟨[line], tail, nofun, ?_, ?_⟩, by simp [text]⟩
      · rintro - _ ⟨⟩
        exact ended
      · rintro _ ⟨⟩
        exact blank
  | cons next lines =>
    refine ⟨⟨line :: next :: lines, tail, ?_, ?_, ?_⟩, by simp [text]⟩
    · exact List.forall_mem_cons.mpr ⟨ended, others⟩
    · simpa only [List.getLast?_cons_cons] using lastEnded
    · simpa only [List.getLast?_cons_cons] using solid

theorem exists_layout (text : Bytes) : ∃ layout : Layout, layout.text = text := by
  induction text using line_induction with
  | last line unbroken =>
    by_cases blank : line = []
    · exact ⟨⟨[], [], nofun, nofun, nofun⟩, blank.symm⟩
    · refine ⟨⟨[⟨line, none, unbroken, nofun⟩], [], nofun, nofun, ?_⟩, by
        simp [Layout.text, Line.text]⟩
      rintro _ ⟨⟩
      exact blank
  | ended line rest unbroken ih =>
    obtain ⟨layout, rfl⟩ := ih
    obtain ⟨first, ended, written⟩ := exists_line unbroken
    obtain ⟨longer, same⟩ := layout.exists_cons ended
    refine ⟨longer, ?_⟩
    rw [same, written, List.append_assoc]
    rfl

/-- The lines of a text are the lines of its layouts.  It has one, and all of them have the same
lines. -/
theorem splitLines_eq_iff (text : Bytes) (lines : List Bytes) :
    splitLines text = lines ↔ ∃ layout : Layout, layout.text = text ∧ layout.contents = lines := by
  constructor
  · rintro rfl
    obtain ⟨layout, rfl⟩ := exists_layout text
    exact ⟨layout, rfl, layout.splitLines_text.symm⟩
  · rintro ⟨layout, rfl, rfl⟩
    exact layout.splitLines_text

/-- Two carriage returns of which one belongs to the ending, a blank line between others, and a last
line that keeps its carriage return. -/
example : splitLines (utf8 "a\r\r\n\r\nb\r") = [utf8 "a\r", [], utf8 "b\r"] ∧
    splitLines (utf8 "a\r\r\n\r\n\n") = [utf8 "a\r"] := by
  decide

end Diagnostics

end CueFront
