import CueFront.Diagnostics.Position
import CueFront.Proofs.Bytes
import CueFront.Proofs.Decimal

/-!
# The grammar of position lines

`IsPosition line row column` says that a line is a position line whose numbers are written
`row` and `column`: four spaces, a path, a colon, a numeral, a colon, a numeral.  The path is any
byte string, but there is only one way to read a line (`IsPosition.unique`), because a numeral
holds no colon.  `scan?_eq_some` says that `Position.scan?` accepts exactly the position lines
whose numbers lie between one and the limit.
-/

namespace CueFront

namespace Diagnostics

namespace Position

/-- The line reads: four spaces, a path, and two numerals behind colons. -/
def IsPosition (line row column : Bytes) : Prop :=
  ∃ path : Bytes, line = indent ++ (path ++ Byte.colon :: row ++ Byte.colon :: column) ∧
    Decimal.isNumeral row = true ∧ Decimal.isNumeral column = true

theorem colon_not_mem {numeral : Bytes} (isNumeral : Decimal.isNumeral numeral = true) :
    Byte.colon ∉ numeral :=
  Decimal.not_mem_of_isNumeral isNumeral (by decide)

/-- A line or column is a numeral of a number between one and the limit. -/
theorem readOrdinal?_eq_some {text : Bytes} {n : Nat} : readOrdinal? text = some n ↔
    Decimal.isNumeral text = true ∧ Decimal.value text = n ∧ 1 ≤ n ∧ n ≤ limit := by
  rw [readOrdinal?, Option.filter_eq_some_iff, Decimal.readUpTo?_eq_some, decide_eq_true_eq]
  constructor
  · rintro ⟨⟨numeral, same, most⟩, least⟩
    exact ⟨numeral, same, least, most⟩
  · rintro ⟨numeral, same, least, most⟩
    exact ⟨⟨numeral, same, most⟩, least⟩

theorem isNumeral_of_readOrdinal? {text : Bytes} {n : Nat} (read : readOrdinal? text = some n) :
    Decimal.isNumeral text = true :=
  (readOrdinal?_eq_some.mp read).1

/-- The cuts that reading a position line makes. -/
theorem splitLast?_position (path : Bytes) {row column : Bytes}
    (rowNumeral : Decimal.isNumeral row = true)
    (columnNumeral : Decimal.isNumeral column = true) :
    Bytes.splitLast? Byte.colon (path ++ Byte.colon :: row ++ Byte.colon :: column) =
        some (path ++ Byte.colon :: row, column) ∧
      Bytes.splitLast? Byte.colon (path ++ Byte.colon :: row) = some (path, row) :=
  ⟨Bytes.splitLast?_append (colon_not_mem columnNumeral),
    Bytes.splitLast?_append (colon_not_mem rowNumeral)⟩

/-- There is one way to read a position line. -/
theorem IsPosition.unique {line row row' column column' : Bytes}
    (reads : IsPosition line row column) (reads' : IsPosition line row' column') :
    row = row' ∧ column = column' := by
  obtain ⟨path, rfl, rowNumeral, columnNumeral⟩ := reads
  obtain ⟨path', same, rowNumeral', columnNumeral'⟩ := reads'
  have same := List.append_cancel_left same
  obtain ⟨cut, frontCut⟩ := splitLast?_position path rowNumeral columnNumeral
  obtain ⟨cut', frontCut'⟩ := splitLast?_position path' rowNumeral' columnNumeral'
  rw [same, cut'] at cut
  obtain ⟨sameFront, sameColumn⟩ := Prod.mk.inj (Option.some.inj cut)
  rw [← sameFront, frontCut'] at frontCut
  exact ⟨(Prod.mk.inj (Option.some.inj frontCut)).2.symm, sameColumn.symm⟩

theorem scan?_unindented {line : Bytes} (unindented : ¬ indent <+: line) :
    scan? line = none := by
  simp only [scan?]
  rw [if_neg fun indented => unindented (List.isPrefixOf_iff_prefix.mp indented)]

theorem scan?_indent (body : Bytes) :
    scan? (indent ++ body) = (Bytes.splitLast? Byte.colon body).bind fun cut =>
      (Bytes.splitLast? Byte.colon cut.1).bind fun front =>
        (readOrdinal? front.2).bind fun row => (readOrdinal? cut.2).bind fun column =>
          some ⟨row, column⟩ := by
  simp only [scan?]
  rw [if_pos (List.isPrefixOf_iff_prefix.mpr (List.prefix_append indent body)),
    List.drop_left]
  rfl

/-- The scanner takes exactly the position lines, and reads their numbers. -/
theorem scan?_eq_some {line : Bytes} {position : Position} :
    scan? line = some position ↔
      ∃ row column, IsPosition line row column ∧ readOrdinal? row = some position.line ∧
        readOrdinal? column = some position.column := by
  constructor
  · intro found
    by_cases indented : indent <+: line
    · obtain ⟨body, rfl⟩ := indented
      simp only [scan?_indent, Option.bind_eq_some_iff, Option.some_inj] at found
      obtain ⟨⟨front, column⟩, cut, ⟨path, row⟩, frontCut, line, readRow, last, readColumn, rfl⟩ :=
        found
      obtain ⟨rfl, -⟩ := Bytes.splitLast?_eq_some.mp cut
      obtain ⟨rfl, -⟩ := Bytes.splitLast?_eq_some.mp frontCut
      exact ⟨row, column, ⟨path, rfl, isNumeral_of_readOrdinal? readRow,
        isNumeral_of_readOrdinal? readColumn⟩, readRow, readColumn⟩
    · rw [scan?_unindented indented] at found
      cases found
  · rintro ⟨row, column, ⟨path, rfl, rowNumeral, columnNumeral⟩, readRow, readColumn⟩
    obtain ⟨cut, frontCut⟩ := splitLast?_position path rowNumeral columnNumeral
    simp only [scan?_indent, cut, frontCut, readRow, readColumn, Option.bind_some]

end Position

end Diagnostics

end CueFront
