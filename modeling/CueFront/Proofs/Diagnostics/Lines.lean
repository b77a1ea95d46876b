import CueFront.Diagnostics.Lines
import Mathlib.Data.List.DropRight

/-!
# Laws of line splitting

`rawLines` gives the lines of a text with the blank ones at its end.  It is read off the text
from the front: `rawLines_terminated` takes the first line that a line feed ends, and
`rawLines_unterminated` is the last line, and `line_induction` is the induction that follows them.
A text whose lines are all ended (`Closed`) adds its lines in front of those of any text behind it.
`splitLines` drops the blank lines at the end, which changes nothing that one blank line at the end
does not change (`apply_dropBlankTail`).
-/

namespace CueFront

namespace Diagnostics

/-! ## Lines with their blank tail -/

/-- The lines of a text, those at its end that are blank included. -/
def rawLines (text : Bytes) : List Bytes := unterminate (segments text)

theorem splitLines_eq (text : Bytes) : splitLines text = dropBlankTail (rawLines text) := rfl

theorem segments_cons {b : UInt8} (other : b ≠ Byte.lineFeed) (text : Bytes) :
    segments (b :: text) = (b :: (segments text).1, (segments text).2) :=
  if_neg (by simpa using other)

theorem segments_unterminated {line : Bytes} (unbroken : Byte.lineFeed ∉ line) :
    segments line = (line, []) := by
  induction line with
  | nil => rfl
  | cons b line ih =>
    rw [segments_cons (List.ne_of_not_mem_cons unbroken).symm,
      ih (List.not_mem_of_not_mem_cons unbroken)]

theorem segments_terminated {line : Bytes} (unbroken : Byte.lineFeed ∉ line) (rest : Bytes) :
    segments (line ++ Byte.lineFeed :: rest) =
      (line, (segments rest).1 :: (segments rest).2) := by
  induction line with
  | nil => rfl
  | cons b line ih =>
    rw [List.cons_append, segments_cons (List.ne_of_not_mem_cons unbroken).symm,
      ih (List.not_mem_of_not_mem_cons unbroken)]

/-- A text without line feed is one line, and keeps a carriage return at its end. -/
theorem rawLines_unterminated {line : Bytes} (unbroken : Byte.lineFeed ∉ line) :
    rawLines line = [line] := by
  simp only [rawLines]
  rw [segments_unterminated unbroken]
  rfl

/-- The first line feed ends the first line, which loses a carriage return at its end. -/
theorem rawLines_terminated {line : Bytes} (unbroken : Byte.lineFeed ∉ line) (rest : Bytes) :
    rawLines (line ++ Byte.lineFeed :: rest) = stripReturn line :: rawLines rest := by
  simp only [rawLines]
  rw [segments_terminated unbroken]
  rfl

/-- What holds of every text without line feed, and of a line that is ended in front of a text if it
holds of that text, holds of every text. -/
theorem line_induction {P : Bytes → Prop} (last : ∀ line, Byte.lineFeed ∉ line → P line)
    (ended : ∀ line rest, Byte.lineFeed ∉ line → P rest → P (line ++ Byte.lineFeed :: rest))
    (text : Bytes) : P text := by
  induction length : text.length using Nat.strong_induction_on generalizing text with
  | _ bound ih =>
    by_cases broken : Byte.lineFeed ∈ text
    · obtain ⟨line, rest, rfl, unbroken⟩ := List.eq_append_cons_of_mem broken
      have shorter : rest.length < bound := by
        rw [← length, List.length_append, List.length_cons]
        omega
      exact ended line rest unbroken (ih rest.length shorter rest rfl)
    · exact last text broken

/-! ## Carriage returns -/

theorem stripReturn_append_return (line : Bytes) :
    stripReturn (line ++ [Byte.carriageReturn]) = line := by
  simp [stripReturn]

theorem stripReturn_of_ne {line : Bytes}
    (bare : line.getLast? ≠ some Byte.carriageReturn) : stripReturn line = line := by
  simp [stripReturn, bare]

theorem stripReturn_eq_self_iff {line : Bytes} :
    stripReturn line = line ↔ line.getLast? ≠ some Byte.carriageReturn := by
  refine ⟨fun same ended => ?_, stripReturn_of_ne⟩
  obtain ⟨front, rfl⟩ := List.getLast?_eq_some_iff.mp ended
  rw [stripReturn_append_return] at same
  simpa using congrArg List.length same

theorem map_stripReturn_of_ne {lines : List Bytes}
    (bare : ∀ line ∈ lines, line.getLast? ≠ some Byte.carriageReturn) :
    lines.map stripReturn = lines :=
  (List.map_congr_left fun line inside => stripReturn_of_ne (bare line inside)).trans
    (List.map_id lines)

theorem lineFeed_not_mem_stripReturn {line : Bytes} (unbroken : Byte.lineFeed ∉ line) :
    Byte.lineFeed ∉ stripReturn line := by
  rw [stripReturn]
  split
  · exact fun inside => unbroken ((List.dropLast_sublist line).subset inside)
  · exact unbroken

/-- No line holds a line feed. -/
theorem lineFeed_not_mem_rawLines (text : Bytes) :
    ∀ line ∈ rawLines text, Byte.lineFeed ∉ line := by
  induction text using line_induction with
  | last line unbroken =>
    rw [rawLines_unterminated unbroken]
    intro other inside
    rwa [List.mem_singleton.mp inside]
  | ended line rest unbroken ih =>
    rw [rawLines_terminated unbroken]
    intro other inside
    rcases List.mem_cons.mp inside with rfl | inside
    · exact lineFeed_not_mem_stripReturn unbroken
    · exact ih other inside

/-! ## Texts whose lines are all ended -/

/-- Every line of the text is ended. -/
def Closed (text : Bytes) : Prop := text = [] ∨ text.getLast? = some Byte.lineFeed

instance : DecidablePred Closed := fun text =>
  inferInstanceAs (Decidable (text = [] ∨ text.getLast? = some Byte.lineFeed))

theorem Closed.of_ended {line rest : Bytes} (closed : Closed (line ++ Byte.lineFeed :: rest)) :
    Closed rest := by
  rcases closed with blank | last
  · simp at blank
  · cases rest with
    | nil => exact .inl rfl
    | cons b rest =>
      rw [List.getLast?_append_of_ne_nil _ (by simp), List.getLast?_cons_cons] at last
      exact .inr last

/-- The lines of a closed text stand in front of the lines of the text behind it. -/
theorem Closed.rawLines_append {text : Bytes} (closed : Closed text) :
    ∃ lines, ∀ rest, rawLines (text ++ rest) = lines ++ rawLines rest := by
  induction text using line_induction with
  | last line unbroken =>
    rcases closed with rfl | last
    · exact ⟨[], fun rest => rfl⟩
    · exact absurd (List.mem_of_getLast? last) unbroken
  | ended line later unbroken ih =>
    obtain ⟨lines, appended⟩ := ih closed.of_ended
    refine ⟨stripReturn line :: lines, fun rest => ?_⟩
    rw [List.append_assoc, List.cons_append, rawLines_terminated unbroken, appended]
    rfl

/-- The text of some lines, each ended by a line feed. -/
def endLines (lines : List Bytes) : Bytes := lines.flatMap (· ++ [Byte.lineFeed])

/-- Each of the lines loses a carriage return at its end. -/
theorem rawLines_endLines_append {lines : List Bytes}
    (unbroken : ∀ line ∈ lines, Byte.lineFeed ∉ line) (rest : Bytes) :
    rawLines (endLines lines ++ rest) = lines.map stripReturn ++ rawLines rest := by
  induction lines with
  | nil => rfl
  | cons line lines ih =>
    have later := ih (List.forall_mem_of_forall_mem_cons unbroken)
    have split := rawLines_terminated (unbroken line List.mem_cons_self) (endLines lines ++ rest)
    rw [endLines, List.flatMap_cons, ← endLines, List.append_assoc, List.append_assoc,
      List.singleton_append, split, later]
    rfl

/-- A blank line is behind the last. -/
theorem rawLines_endLines {lines : List Bytes} (unbroken : ∀ line ∈ lines, Byte.lineFeed ∉ line) :
    rawLines (endLines lines) = lines.map stripReturn ++ [[]] := by
  have split := rawLines_endLines_append unbroken []
  rw [List.append_nil] at split
  exact split

/-! ## The blank tail -/

theorem dropBlankTail_concat (lines : List Bytes) (line : Bytes) :
    dropBlankTail (lines ++ [line]) =
      if line.isEmpty then dropBlankTail lines else lines ++ [line] :=
  List.rdropWhile_concat List.isEmpty lines line

/-- What a blank line at the end does not change, dropping all of them does not change. -/
theorem apply_dropBlankTail {α : Type} {f : List Bytes → α}
    (blank : ∀ lines, f (lines ++ [[]]) = f lines) (lines : List Bytes) :
    f (dropBlankTail lines) = f lines := by
  induction lines using List.reverseRecOn with
  | nil => rfl
  | append_singleton earlier line ih =>
    rw [dropBlankTail_concat]
    cases line with
    | nil => exact ih.trans (blank earlier).symm
    | cons b rest => rfl

theorem dropBlankTail_isPrefix (lines : List Bytes) : dropBlankTail lines <+: lines :=
  List.rdropWhile_prefix List.isEmpty lines

theorem dropBlankTail_splitLines (text : Bytes) :
    dropBlankTail (splitLines text) = splitLines text :=
  List.rdropWhile_idempotent List.isEmpty (rawLines text)

/-- No line of a text holds a line feed. -/
theorem lineFeed_not_mem_splitLines (text : Bytes) :
    ∀ line ∈ splitLines text, Byte.lineFeed ∉ line := fun line inside =>
  lineFeed_not_mem_rawLines text line ((dropBlankTail_isPrefix _).subset inside)

/-- Lines that are ended by line feeds come back without the carriage returns at their ends. -/
theorem splitLines_endLines {lines : List Bytes}
    (unbroken : ∀ line ∈ lines, Byte.lineFeed ∉ line) :
    splitLines (endLines lines) = dropBlankTail (lines.map stripReturn) := by
  rw [splitLines_eq, rawLines_endLines unbroken, dropBlankTail_concat]
  rfl

end Diagnostics

end CueFront
