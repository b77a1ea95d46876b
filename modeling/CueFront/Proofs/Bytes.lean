import CueFront.Bytes
import Mathlib.Data.List.Infix
import Mathlib.Data.List.TakeDrop
import Mathlib.Data.List.TakeWhile

/-!
# Laws of searching and cutting

The first occurrence of a separator is the one in front of which there is no other, and the last is
the one behind which there is no other (`splitLast?_eq_some`).  A text contains what it holds in one
piece (`contains_iff`).
-/

namespace CueFront

namespace Bytes

variable {sep : UInt8} {text front back : Bytes}

/-! ## Separators -/

theorem bne_of_mem (absent : sep ∉ text) : ∀ b ∈ text, (b != sep) = true := fun _ inside =>
  bne_iff_ne.mpr fun same => absent (same ▸ inside)

theorem takeWhile_bne (absent : sep ∉ text) : text.takeWhile (· != sep) = text :=
  List.takeWhile_eq_self_iff.mpr (bne_of_mem absent)

/-- What stands in front of the first separator. -/
theorem takeWhile_bne_append (absent : sep ∉ front) (back : Bytes) :
    (front ++ sep :: back).takeWhile (· != sep) = front := by
  rw [List.takeWhile_append_of_pos (bne_of_mem absent)]
  simp

/-- There is one first separator. -/
theorem append_cons_inj {front' back' : Bytes} (absent : sep ∉ front) (absent' : sep ∉ front')
    (same : front ++ sep :: back = front' ++ sep :: back') : front = front' ∧ back = back' := by
  have fronts : front = front' := by
    rw [← takeWhile_bne_append absent back, same, takeWhile_bne_append absent' back']
  subst fronts
  exact ⟨rfl, (List.cons.inj (List.append_cancel_left same)).2⟩

theorem splitLast?_append (absent : sep ∉ back) :
    splitLast? sep (front ++ sep :: back) = some (front, back) := by
  have inside := bne_of_mem (mt List.mem_reverse.mp absent)
  have cut : (front ++ sep :: back).reverse.span (· != sep) =
      (back.reverse, sep :: front.reverse) := by
    rw [List.span_eq_takeWhile_dropWhile, List.reverse_append, List.reverse_cons,
      List.append_assoc, List.takeWhile_append_of_pos inside, List.dropWhile_append_of_pos inside]
    simp
  simp only [splitLast?]
  rw [cut]
  simp

theorem splitLast?_eq_none (absent : sep ∉ text) :
    splitLast? sep text = none := by
  have inside := bne_of_mem (mt List.mem_reverse.mp absent)
  simp only [splitLast?]
  rw [List.span_eq_takeWhile_dropWhile, ← List.append_nil text.reverse,
    List.dropWhile_append_of_pos inside]
  rfl

/-- A separator that occurs has a last occurrence. -/
theorem exists_last (present : sep ∈ text) :
    ∃ front back, text = front ++ sep :: back ∧ sep ∉ back := by
  obtain ⟨after, before, same, absent⟩ :=
    List.eq_append_cons_of_mem (List.mem_reverse.mpr present)
  refine ⟨before.reverse, after.reverse, ?_, fun here => absent (List.mem_reverse.mp here)⟩
  simpa using congrArg List.reverse same

/-- The last separator is the one behind which there is no other. -/
theorem splitLast?_eq_some :
    splitLast? sep text = some (front, back) ↔ text = front ++ sep :: back ∧ sep ∉ back := by
  constructor
  · intro found
    by_cases present : sep ∈ text
    · obtain ⟨before, after, same, absent⟩ := exists_last present
      rw [same, splitLast?_append absent] at found
      cases found
      exact ⟨same, absent⟩
    · rw [splitLast?_eq_none present] at found
      cases found
  · rintro ⟨rfl, absent⟩
    exact splitLast?_append absent

/-! ## Pieces -/

/-- A text contains what it holds in one piece. -/
theorem contains_iff {needle text : Bytes} : contains needle text = true ↔ needle <:+: text := by
  induction text with
  | nil => simp [contains]
  | cons b rest ih =>
    rw [contains, Bool.or_eq_true, List.isPrefixOf_iff_prefix, ih, List.infix_cons_iff]

end Bytes

end CueFront
