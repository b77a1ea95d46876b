import CueFront.Diagnostics.Report
import CueFront.Proofs.Diagnostics.Blocks
import CueFront.Proofs.Decimal
import CueFront.Proofs.Bytes
import Mathlib.Data.Set.Function

/-!
# The text report is unambiguous

Problems of one file whose messages are on one line can be told apart by their text report
(`renderText_injOn`).  The file may hold anything, since the text of every problem starts with it.
Behind it a numeral ends at the next colon, because it holds none, and a message ends at the next
line feed, so the first problem is read in one way (`Record.render_prefix_unique`).  The problems of
an output are such problems, since a message is a line of it (`Parser.isOf_parse`).
-/

namespace CueFront

namespace Diagnostics

namespace Record

/-- The problem is of the file, and its message is on one line. -/
structure IsOf (record : Record) (file : Bytes) : Prop where
  file : record.file = file
  unbroken : Byte.lineFeed ∉ record.message

instance (record : Record) (file : Bytes) : Decidable (record.IsOf file) :=
  decidable_of_iff (record.file = file ∧ Byte.lineFeed ∉ record.message)
    ⟨fun ⟨file, unbroken⟩ => ⟨file, unbroken⟩, fun ⟨file, unbroken⟩ => ⟨file, unbroken⟩⟩

/-! ## One problem -/

/-- The numerals of a line and a column hold no colon. -/
theorem colon_not_mem_signed (n : Int) : Byte.colon ∉ Decimal.signed n :=
  Decimal.not_mem_signed (by decide) (by decide) n

theorem render_append (record : Record) (rest : Bytes) :
    record.render ++ rest =
      record.file ++ Byte.colon :: (Decimal.signed record.line ++ Byte.colon ::
        (Decimal.signed record.column ++ Byte.colon :: Byte.space ::
          (record.message ++ Byte.lineFeed :: rest))) := by
  simp [render]

theorem render_ne_nil (record : Record) : record.render ≠ [] := by
  simp [render]

/-- A problem at the start of a text is read in one way: behind the file each field is cut off at
the byte that it cannot hold. -/
theorem render_prefix_unique {file : Bytes} {first second : Record} (isOf : first.IsOf file)
    (isOf' : second.IsOf file) {rest rest' : Bytes}
    (same : first.render ++ rest = second.render ++ rest') : first = second ∧ rest = rest' := by
  rw [render_append, render_append, isOf.file, isOf'.file] at same
  have same := (List.cons.inj (List.append_cancel_left same)).2
  obtain ⟨line, same⟩ :=
    Bytes.append_cons_inj (colon_not_mem_signed first.line) (colon_not_mem_signed second.line) same
  obtain ⟨column, same⟩ := Bytes.append_cons_inj (colon_not_mem_signed first.column)
    (colon_not_mem_signed second.column) same
  obtain ⟨message, same⟩ :=
    Bytes.append_cons_inj isOf.unbroken isOf'.unbroken (List.cons.inj same).2
  refine ⟨?_, same⟩
  have sameFile := isOf.file.trans isOf'.file.symm
  have sameLine := Decimal.signed_injective line
  have sameColumn := Decimal.signed_injective column
  cases first
  cases second
  congr

end Record

/-! ## Reports -/

theorem renderText_cons (record : Record) (records : List Record) :
    renderText (record :: records) = record.render ++ renderText records := rfl

/-- Different lists of problems of one file have different reports. -/
theorem renderText_inj {file : Bytes} {records records' : List Record}
    (areOf : ∀ record ∈ records, record.IsOf file)
    (areOf' : ∀ record ∈ records', record.IsOf file)
    (same : renderText records = renderText records') : records = records' := by
  induction records generalizing records' with
  | nil =>
    cases records' with
    | nil => rfl
    | cons record' later' =>
      rw [renderText_cons] at same
      exact absurd (List.append_eq_nil_iff.mp same.symm).1 record'.render_ne_nil
  | cons record later ih =>
    cases records' with
    | nil =>
      rw [renderText_cons] at same
      exact absurd (List.append_eq_nil_iff.mp same).1 record.render_ne_nil
    | cons record' later' =>
      rw [renderText_cons, renderText_cons] at same
      obtain ⟨isOf, areLater⟩ := List.forall_mem_cons.mp areOf
      obtain ⟨isOf', areLater'⟩ := List.forall_mem_cons.mp areOf'
      obtain ⟨rfl, sameLater⟩ := Record.render_prefix_unique isOf isOf' same
      rw [ih areLater areLater' sameLater]

/-- The problems of a report are of the file, and each message is a line of the report. -/
theorem Parser.isOf_parse (parser : Parser) (report file : Bytes) :
    ∀ record ∈ parser.parse report file, record.IsOf file := by
  intro record inside
  obtain ⟨block, inReport, inBlock⟩ := List.mem_flatMap.mp inside
  obtain ⟨line, -, found⟩ := List.mem_filterMap.mp inBlock
  obtain ⟨position, -, rfl⟩ := Option.map_eq_some_iff.mp found
  have isLine : block.header ∈ splitLines report := by
    rw [← parser.items_group report]
    exact List.mem_flatMap.mpr ⟨block, inReport, List.mem_cons_self⟩
  exact ⟨rfl, lineFeed_not_mem_splitLines report block.header isLine⟩

/-- Whatever the file, its text reports tell lists of problems apart, and so the problems that two
outputs are read as. -/
theorem renderText_injOn (file : Bytes) :
    Set.InjOn renderText {records | ∀ record ∈ records, record.IsOf file} ∧
      ∀ (parser : Parser) (output output' : Bytes),
        renderText (parser.parse output file) = renderText (parser.parse output' file) →
          parser.parse output file = parser.parse output' file := by
  have injOn : Set.InjOn renderText {records | ∀ record ∈ records, record.IsOf file} :=
    fun records areOf records' areOf' same => renderText_inj areOf areOf' same
  exact ⟨injOn, fun parser output output' same =>
    injOn (parser.isOf_parse output file) (parser.isOf_parse output' file) same⟩

/-- A file whose name looks like the start of a report. -/
def reportLikeFile : Bytes := utf8 "a:1:2: b\nc"

theorem renderText_injOn_reportLikeFile :
    (∀ record ∈ [(⟨reportLikeFile, 1, -2, utf8 " b\r"⟩ : Record)], record.IsOf reportLikeFile) ∧
      (∀ record ∈ [(⟨reportLikeFile, 1, 2, utf8 "b"⟩ : Record), ⟨reportLikeFile, 0, 2, []⟩],
        record.IsOf reportLikeFile) ∧
      renderText [⟨reportLikeFile, 1, -2, utf8 " b\r"⟩] ≠
        renderText [⟨reportLikeFile, 1, 2, utf8 "b"⟩, ⟨reportLikeFile, 0, 2, []⟩] ∧
      renderText (({} : Parser).parse (utf8 "m\n    p:1:2\n") reportLikeFile) =
        renderText (({} : Parser).parse (utf8 "m\r\n   ?\n    q:01:2") reportLikeFile) ∧
      ({} : Parser).parse (utf8 "m\n    p:1:2\n") reportLikeFile =
        ({} : Parser).parse (utf8 "m\r\n   ?\n    q:01:2") reportLikeFile := by
  obtain ⟨injOn, ofOutputs⟩ := renderText_injOn reportLikeFile
  have one : ∀ record ∈ [(⟨reportLikeFile, 1, -2, utf8 " b\r"⟩ : Record)],
      record.IsOf reportLikeFile := by decide
  have two : ∀ record ∈ [(⟨reportLikeFile, 1, 2, utf8 "b"⟩ : Record),
      ⟨reportLikeFile, 0, 2, []⟩], record.IsOf reportLikeFile := by decide
  have reports : renderText (({} : Parser).parse (utf8 "m\n    p:1:2\n") reportLikeFile) =
      renderText (({} : Parser).parse (utf8 "m\r\n   ?\n    q:01:2") reportLikeFile) := by
    decide +kernel
  refine ⟨one, two, fun same => ?_, reports, ofOutputs {} _ _ reports⟩
  exact absurd (injOn one two same) (by decide)

end Diagnostics

end CueFront
