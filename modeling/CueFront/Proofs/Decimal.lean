import CueFront.Decimal

/-!
# Laws of decimal numerals

Bounded reading gives the number that a numeral denotes, for every length of the numeral.
Writing a number gives a numeral that denotes it, so different numbers are written differently, and
different integers too (`signed_injective`).
-/

namespace CueFront

namespace Decimal

/-! ## Numerals -/

theorem isNumeral_iff_digits {text : Bytes} :
    isNumeral text = true ↔ text ≠ [] ∧ ∀ b ∈ text, Byte.isDigit b = true := by
  simp [isNumeral]

theorem isNumeral_eq_false {text : Bytes} :
    isNumeral text = false ↔ text = [] ∨ ∃ b ∈ text, Byte.isDigit b = false := by
  simp only [isNumeral, Bool.and_eq_false_iff, Bool.not_eq_false', List.isEmpty_iff,
    List.all_eq_false, Bool.not_eq_true]

/-- A numeral holds nothing but digits. -/
theorem not_mem_of_isNumeral {numeral : Bytes} (isNumeral : isNumeral numeral = true) {b : UInt8}
    (notDigit : Byte.isDigit b = false) : b ∉ numeral := by
  intro inside
  have digit := (isNumeral_iff_digits.mp isNumeral).2 b inside
  rw [notDigit] at digit
  cases digit

/-! ## Bounded reading -/

/-- The number a numeral denotes behind the digits of `n`. -/
def valueFrom (n : Nat) (numeral : Bytes) : Nat :=
  numeral.foldl (fun n b => 10 * n + (b.toNat - 48)) n

theorem value_eq (numeral : Bytes) : value numeral = valueFrom 0 numeral := rfl

theorem le_valueFrom (numeral : Bytes) (n : Nat) : n ≤ valueFrom n numeral := by
  induction numeral generalizing n with
  | nil => exact Nat.le_refl n
  | cons b rest ih =>
    have step : n ≤ 10 * n + (b.toNat - 48) := by omega
    exact Nat.le_trans step (ih _)

/-- Above the bound nothing is read any more. -/
theorem foldl_extend_of_gt {bound n : Nat} (above : bound < n) (numeral : Bytes) :
    numeral.foldl (extend bound) n = n := by
  induction numeral with
  | nil => rfl
  | cons b rest ih =>
    rw [List.foldl_cons, extend, if_pos above]
    exact ih

/-- Bounded reading is exact up to the bound, and stays above it once it gets there. -/
theorem foldl_extend (bound n : Nat) (numeral : Bytes) :
    numeral.foldl (extend bound) n = valueFrom n numeral ∨
      bound < numeral.foldl (extend bound) n ∧ bound < valueFrom n numeral := by
  induction numeral generalizing n with
  | nil => exact .inl rfl
  | cons b rest ih =>
    by_cases above : bound < n
    · right
      rw [foldl_extend_of_gt above]
      exact ⟨above, Nat.lt_of_lt_of_le above (le_valueFrom _ n)⟩
    · rw [List.foldl_cons, extend, if_neg above]
      exact ih _

/-- Bounded reading takes exactly the numerals of the numbers up to the bound. -/
theorem readUpTo?_eq_some {bound n : Nat} {text : Bytes} :
    readUpTo? bound text = some n ↔ isNumeral text = true ∧ value text = n ∧ n ≤ bound := by
  rw [value_eq]
  simp only [readUpTo?]
  by_cases numeral : isNumeral text = true
  · rcases foldl_extend bound 0 text with exact_ | ⟨above, far⟩
    · rw [if_pos numeral, exact_]
      grind
    · rw [if_pos numeral, if_neg (Nat.not_le.mpr above)]
      grind
  · simp [numeral]

/-- The text is digits only, at least one, and the number they denote lies between two bounds. -/
structure Denotes (least most : Nat) (text : Bytes) (n : Nat) : Prop where
  /-- There is a digit. -/
  nonempty : text ≠ []
  /-- There is nothing but digits. -/
  digits : ∀ b ∈ text, Byte.isDigit b = true
  /-- The number, whatever the zeros in front of it. -/
  value : value text = n
  least_le : least ≤ n
  le_most : n ≤ most

theorem denotes_iff {least most n : Nat} {text : Bytes} :
    Denotes least most text n ↔
      isNumeral text = true ∧ Decimal.value text = n ∧ least ≤ n ∧ n ≤ most := by
  rw [isNumeral_iff_digits]
  constructor
  · rintro ⟨nonempty, digits, same, least, most⟩
    exact ⟨⟨nonempty, digits⟩, same, least, most⟩
  · rintro ⟨⟨nonempty, digits⟩, same, least, most⟩
    exact ⟨nonempty, digits, same, least, most⟩

/-- Bounded reading refuses the blank text, any byte that is no digit, and the numbers above the
bound. -/
theorem readUpTo?_eq_none {bound : Nat} {text : Bytes} :
    readUpTo? bound text = none ↔
      text = [] ∨ (∃ b ∈ text, Byte.isDigit b = false) ∨ bound < Decimal.value text := by
  rw [← or_assoc, ← isNumeral_eq_false]
  cases numeral : isNumeral text with
  | false => simp [readUpTo?, numeral]
  | true =>
    by_cases fits : Decimal.value text ≤ bound
    · simp [readUpTo?_eq_some.mpr ⟨numeral, rfl, fits⟩, fits]
    · have refused : readUpTo? bound text = none := by
        refine Option.eq_none_iff_forall_ne_some.mpr fun n read => fits ?_
        obtain ⟨-, rfl, most⟩ := readUpTo?_eq_some.mp read
        exact most
      simp [refused, Nat.not_le.mp fits]

/-! ## Writing -/

/-- The digit of a number below ten. -/
theorem toNat_digit {n : Nat} (small : n < 10) : (UInt8.ofNat (48 + n)).toNat = 48 + n := by
  rw [UInt8.toNat_ofNat']
  omega

theorem isDigit_digit {n : Nat} (small : n < 10) : Byte.isDigit (UInt8.ofNat (48 + n)) = true := by
  simp only [Byte.isDigit, Bool.and_eq_true, decide_eq_true_eq, UInt8.le_iff_toNat_le,
    toNat_digit small]
  constructor
  · exact Nat.le_add_right 48 n
  · change 48 + n ≤ 57
    omega

theorem value_digits (n : Nat) : value (digits n) = n := by
  induction n using Nat.strongRecOn with
  | ind n ih =>
    rw [digits]
    split
    · next small =>
      simp only [value, List.foldl_cons, List.foldl_nil, toNat_digit small]
      omega
    · next large =>
      have front : value (digits (n / 10)) = n / 10 := ih _ (by omega)
      have last : n % 10 < 10 := Nat.mod_lt n (by decide)
      rw [value, List.foldl_append, ← value, front]
      simp only [List.foldl_cons, List.foldl_nil, toNat_digit last]
      omega

theorem all_isDigit_digits (n : Nat) : (digits n).all Byte.isDigit = true := by
  induction n using Nat.strongRecOn with
  | ind n ih =>
    rw [digits]
    split
    · next small => rw [List.all_cons, isDigit_digit small, List.all_nil, Bool.and_true]
    · next large =>
      have last : n % 10 < 10 := Nat.mod_lt n (by decide)
      rw [List.all_append, ih _ (by omega), List.all_cons, isDigit_digit last]
      rfl

theorem digits_ne_nil (n : Nat) : digits n ≠ [] := by
  rw [digits]
  split
  · exact List.cons_ne_nil _ _
  · simp

theorem isNumeral_digits (n : Nat) : isNumeral (digits n) = true := by
  simp [isNumeral, digits_ne_nil, all_isDigit_digits]

/-- A number up to the bound is read back from its numeral. -/
theorem readUpTo?_digits {bound n : Nat} (fits : n ≤ bound) :
    readUpTo? bound (digits n) = some n :=
  readUpTo?_eq_some.mpr ⟨isNumeral_digits n, value_digits n, fits⟩

/-- Different numbers have different digits. -/
theorem digits_injective : Function.Injective digits :=
  Function.LeftInverse.injective value_digits

/-! ## Integers -/

theorem not_mem_digits {b : UInt8} (notDigit : Byte.isDigit b = false) (n : Nat) :
    b ∉ digits n :=
  not_mem_of_isNumeral (isNumeral_digits n) notDigit

/-- The numeral of an integer holds digits and a hyphen. -/
theorem not_mem_signed {b : UInt8} (notDigit : Byte.isDigit b = false)
    (notHyphen : b ≠ Byte.hyphen) (n : Int) : b ∉ signed n := by
  have absent := not_mem_digits notDigit n.natAbs
  rw [signed]
  split
  · exact fun inside => (List.mem_cons.mp inside).elim notHyphen absent
  · exact absent

/-- A negative number begins with a hyphen, and no other number does. -/
theorem hyphen_digits_ne_digits (m n : Nat) : Byte.hyphen :: digits m ≠ digits n := fun same =>
  not_mem_digits (by decide) n (same ▸ List.mem_cons_self)

/-- Different integers are written differently. -/
theorem signed_injective : Function.Injective signed := by
  intro m n same
  simp only [signed] at same
  split at same
  · next negative =>
    split at same
    · next negative' =>
      have magnitude := digits_injective (List.cons.inj same).2
      omega
    · exact absurd same (hyphen_digits_ne_digits _ _)
  · next natural =>
    split at same
    · exact absurd same.symm (hyphen_digits_ne_digits _ _)
    · next natural' =>
      have magnitude := digits_injective same
      omega

end Decimal

end CueFront
