import CueFront.Pattern.Matcher
import CueFront.Proofs.Pattern.Language

/-!
# Laws of captures

Captures are compared by what each group captured, since the entries may stand in any order.  A
match records the texts it took (`record`), the latest of a group being the one that counts.
While a group is open, a failed way through it may have left another text for it, so captures
need to `Agree` only on the groups that are not open.  Recording a group and putting it back both
close it.
-/

namespace CueFront

namespace Pattern

namespace Captures

/-! ## Looking up -/

theorem get?_cons_same (captures : Captures) (index : Nat) (text : Bytes) :
    get? ((index, text) :: captures) index = some text :=
  List.lookup_cons_self

theorem get?_cons_ne (captures : Captures) {index i : Nat} (text : Bytes) (other : i ≠ index) :
    get? ((index, text) :: captures) i = captures.get? i := by
  simp only [get?]
  rw [List.lookup_cons, beq_eq_false_iff_ne.mpr other]

theorem forget_cons_same (captures : Captures) (index : Nat) (text : Bytes) :
    forget ((index, text) :: captures) index = captures.forget index :=
  List.filter_cons_of_neg (by simp)

theorem forget_cons_ne (captures : Captures) {index i : Nat} (text : Bytes) (other : i ≠ index) :
    forget ((i, text) :: captures) index = (i, text) :: captures.forget index :=
  List.filter_cons_of_pos (by simpa using other)

theorem get?_forget_same (captures : Captures) (index : Nat) :
    (captures.forget index).get? index = none := by
  induction captures with
  | nil => rfl
  | cons entry captures ih =>
    obtain ⟨i, text⟩ := entry
    by_cases same : i = index
    · rw [same, forget_cons_same, ih]
    · rw [forget_cons_ne _ _ same, get?_cons_ne _ _ (Ne.symm same), ih]

theorem get?_forget_ne (captures : Captures) {index i : Nat} (other : i ≠ index) :
    (captures.forget index).get? i = captures.get? i := by
  induction captures with
  | nil => rfl
  | cons entry captures ih =>
    obtain ⟨j, text⟩ := entry
    by_cases same : j = index
    · rw [same, forget_cons_same, get?_cons_ne _ _ other, ih]
    · rw [forget_cons_ne _ _ same]
      by_cases here : i = j
      · rw [here, get?_cons_same, get?_cons_same]
      · rw [get?_cons_ne _ _ here, get?_cons_ne _ _ here, ih]

theorem get?_put_same (captures : Captures) (index : Nat) (text : Bytes) :
    (captures.put index text).get? index = some text :=
  get?_cons_same _ _ _

theorem get?_put_ne (captures : Captures) {index i : Nat} (text : Bytes) (other : i ≠ index) :
    (captures.put index text).get? i = captures.get? i :=
  (get?_cons_ne _ _ other).trans (captures.get?_forget_ne other)

theorem get?_restore_same (captures before : Captures) (index : Nat) :
    (captures.restore index before).get? index = before.get? index := by
  simp only [restore]
  cases captured : before.get? index with
  | none => exact captures.get?_forget_same index
  | some text => exact captures.get?_put_same index text

theorem get?_restore_ne (captures before : Captures) {index i : Nat} (other : i ≠ index) :
    (captures.restore index before).get? i = captures.get? i := by
  simp only [restore]
  cases before.get? index with
  | none => exact captures.get?_forget_ne other
  | some text => exact captures.get?_put_ne text other

/-! ## Recording a match -/

/-- Records the texts of a match, in order. -/
def record (captures : Captures) (taken : Taken) : Captures :=
  taken.foldl (fun captures entry => captures.put entry.1 entry.2) captures

theorem record_append (captures : Captures) (taken taken' : Taken) :
    captures.record (taken ++ taken') = (captures.record taken).record taken' := by
  simp only [record]
  rw [List.foldl_append]

/-! ## Open groups -/

/-- Two captures agree on the groups that are not open. -/
def Agree (opened : List Nat) (a b : Captures) : Prop :=
  ∀ i, i ∉ opened → a.get? i = b.get? i

namespace Agree

variable {opened : List Nat} {a b c : Captures}

theorem refl (opened : List Nat) (a : Captures) : Agree opened a a := fun _ _ => rfl

theorem trans (ab : Agree opened a b) (bc : Agree opened b c) : Agree opened a c :=
  fun i closed => (ab i closed).trans (bc i closed)

theorem put (ab : Agree opened a b) (index : Nat) (text : Bytes) :
    Agree opened (a.put index text) (b.put index text) := by
  intro i closed
  by_cases same : i = index
  · rw [same, get?_put_same, get?_put_same]
  · rw [get?_put_ne a text same, get?_put_ne b text same, ab i closed]

/-- Recording the same texts keeps captures in agreement. -/
theorem record (ab : Agree opened a b) (taken : Taken) :
    Agree opened (a.record taken) (b.record taken) := by
  induction taken generalizing a b with
  | nil => exact ab
  | cons entry taken ih => exact ih (ab.put entry.1 entry.2)

/-- Recording the text of a group closes it. -/
theorem put_close {index : Nat} (ab : Agree (index :: opened) a b) (text : Bytes) :
    Agree opened (a.put index text) (b.put index text) := by
  intro i closed
  by_cases same : i = index
  · rw [same, get?_put_same, get?_put_same]
  · have stillClosed : i ∉ index :: opened := fun inside =>
      (List.mem_cons.mp inside).elim same closed
    rw [get?_put_ne a text same, get?_put_ne b text same, ab i stillClosed]

/-- Putting a group back closes it. -/
theorem restore_close {index : Nat} (ab : Agree (index :: opened) a b) :
    Agree opened (a.restore index b) b := by
  intro i closed
  by_cases same : i = index
  · rw [same, get?_restore_same]
  · have stillClosed : i ∉ index :: opened := fun inside =>
      (List.mem_cons.mp inside).elim same closed
    rw [get?_restore_ne a b same, ab i stillClosed]

/-- The text of an open group does not count. -/
theorem put_left {index : Nat} (ab : Agree opened a b) (text : Bytes) :
    Agree (index :: opened) (a.put index text) b := by
  intro i closed
  have other : i ≠ index := fun same => closed (same ▸ List.mem_cons_self)
  rw [get?_put_ne a text other, ab i fun inside => closed (List.mem_cons_of_mem index inside)]

theorem weaken (ab : Agree opened a b) (index : Nat) : Agree (index :: opened) a b :=
  fun i closed => ab i fun inside => closed (List.mem_cons_of_mem index inside)

end Agree

end Captures

end Pattern

end CueFront
