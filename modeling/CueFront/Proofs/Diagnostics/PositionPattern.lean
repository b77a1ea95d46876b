import CueFront.Diagnostics.Custom
import CueFront.Proofs.Diagnostics.Position
import CueFront.Proofs.Pattern.Completeness

/-!
# Position lines as a pattern

Position lines can be written as a pattern.  The matcher tries the ways to cut a line one after
the other, while `Position.scan?` cuts it from its end, and still they agree: the pattern matches
exactly the lines of `Position.IsPosition` whose path holds no end of line, and such a line has
one reading.
-/

namespace CueFront

namespace Diagnostics

open Pattern (Node Expr ByteClass Taken)

/-- Four spaces, any path, and two numerals behind colons. -/
def positionPattern : Bytes := utf8 "^ \x7b4\x7d.*:(\\d+):(\\d+)$"

namespace PositionPattern

/-! ## Reading the pattern -/

/-- A group that captures a numeral. -/
def numeral (index : Nat) : Expr :=
  .group index (.seq (.rep .plus false (.one (.named .digit false))) .empty)

/-- The pattern as it is read. -/
def expr : Expr :=
  .seq (.anchor .lineStart) <| .seq (.rep (.between 4 (some 4)) false (.one (.byte Byte.space))) <|
    .seq (.rep .star false (.one .any)) <| .seq (.one (.byte Byte.colon)) <| .seq (numeral 1) <|
      .seq (.one (.byte Byte.colon)) <| .seq (numeral 2) <| .seq (.anchor .lineEnd) .empty

theorem read_positionPattern : Pattern.read positionPattern = .ok ⟨expr, 2⟩ := rfl

/-- The pattern as it is matched. -/
def node : Node := (expr.unfold 0).1

theorem plain_node : node.Plain :=
  Expr.plain_unfold (by simp only [expr, numeral, Expr.Plain, and_self]) 0

/-! ## What it matches -/

section Matches

open Pattern.Node

variable {before text after : Bytes} {taken : Taken}

theorem matches_byte {b : UInt8} :
    Matches (.one (.byte b)) before text after taken ↔ text = [b] ∧ taken = [] := by
  rw [matches_one]
  constructor
  · rintro ⟨c, accepted, rfl, rfl⟩
    obtain rfl : c = b := eq_of_beq accepted
    exact ⟨rfl, rfl⟩
  · rintro ⟨rfl, rfl⟩
    exact ⟨b, beq_self_eq_true b, rfl, rfl⟩

theorem matches_indent :
    Matches ((Expr.rep (.between 4 (some 4)) false (.one (.byte Byte.space))).unfold 0).1
        before text after taken ↔
      text = Position.indent ∧ taken = [] := by
  show Matches (.seq (Pattern.copies (Expr.one (.byte Byte.space)).unfold 4 0).1 .empty)
    before text after taken ↔ _
  have same : ∀ b, (ByteClass.byte Byte.space).has b = true ↔ b = Byte.space := fun b => beq_iff_eq
  rw [matches_seq_empty, matches_copies_one, Position.indent, List.eq_replicate_iff, and_assoc]
  simp only [same]

theorem isNumeral_iff {numeral : Bytes} :
    Decimal.isNumeral numeral = true ↔
      numeral ≠ [] ∧ ∀ b ∈ numeral, (ByteClass.named .digit false).has b = true := by
  have same : ∀ b, (ByteClass.named .digit false).has b = Byte.isDigit b := fun b =>
    Bool.xor_false (Byte.isDigit b)
  simp [Decimal.isNumeral_iff_digits, same]

theorem matches_numeral {index n : Nat} :
    Matches ((numeral index).unfold n).1 before text after taken ↔
      Decimal.isNumeral text = true ∧ taken = [(index, text)] := by
  show Matches (.group index (.seq (.seq (.one (.named .digit false))
    (.loop n false (.one (.named .digit false)))) .empty)) before text after taken ↔ _
  rw [matches_group, isNumeral_iff]
  constructor
  · rintro ⟨inner, rfl, inside⟩
    obtain ⟨nonempty, digits, rfl⟩ := matches_plus_one.mp (matches_seq_empty.mp inside)
    exact ⟨⟨nonempty, digits⟩, rfl⟩
  · rintro ⟨⟨nonempty, digits⟩, rfl⟩
    exact ⟨[], rfl, matches_seq_empty.mpr (matches_plus_one.mpr ⟨nonempty, digits, rfl⟩)⟩

/-- The pattern matches the position lines whose path holds no end of line. -/
theorem matches_node {line : Bytes} :
    Matches node [] line [] taken ↔
      ∃ path row column,
        line = Position.indent ++ (path ++ Byte.colon :: row ++ Byte.colon :: column) ∧
        (∀ b ∈ path, ByteClass.any.has b = true) ∧ Decimal.isNumeral row = true ∧
        Decimal.isNumeral column = true ∧ taken = [(1, row), (2, column)] := by
  constructor
  · intro inside
    obtain ⟨_, line₁, _, _, rfl, rfl, start, inside₁⟩ := matches_seq.mp inside
    obtain ⟨-, rfl, rfl⟩ := matches_anchor.mp start
    obtain ⟨_, line₂, _, _, rfl, rfl, indent, inside₂⟩ := matches_seq.mp inside₁
    obtain ⟨rfl, rfl⟩ := matches_indent.mp indent
    obtain ⟨path, line₃, _, _, rfl, rfl, any, inside₃⟩ := matches_seq.mp inside₂
    obtain ⟨accepted, rfl⟩ := matches_loop_one.mp any
    obtain ⟨_, line₄, _, _, rfl, rfl, colon, inside₄⟩ := matches_seq.mp inside₃
    obtain ⟨rfl, rfl⟩ := matches_byte.mp colon
    obtain ⟨row, line₅, _, _, rfl, rfl, first, inside₅⟩ := matches_seq.mp inside₄
    obtain ⟨ofRow, rfl⟩ := matches_numeral.mp first
    obtain ⟨_, line₆, _, _, rfl, rfl, colon', inside₆⟩ := matches_seq.mp inside₅
    obtain ⟨rfl, rfl⟩ := matches_byte.mp colon'
    obtain ⟨column, line₇, _, _, rfl, rfl, second, inside₇⟩ := matches_seq.mp inside₆
    obtain ⟨ofColumn, rfl⟩ := matches_numeral.mp second
    obtain ⟨-, rfl, rfl⟩ := matches_anchor.mp (matches_seq_empty.mp inside₇)
    exact ⟨path, row, column, by simp, accepted, ofRow, ofColumn, rfl⟩
  · rintro ⟨path, row, column, rfl, any, ofRow, ofColumn, rfl⟩
    have parts : path ++ Byte.colon :: row ++ Byte.colon :: column =
        path ++ ([Byte.colon] ++ (row ++ ([Byte.colon] ++ (column ++ [])))) := by simp
    rw [parts]
    refine matches_seq.mpr ⟨[], _, [], _, rfl, rfl, .anchor rfl, ?_⟩
    refine matches_seq.mpr ⟨_, _, [], _, rfl, rfl, matches_indent.mpr ⟨rfl, rfl⟩, ?_⟩
    refine matches_seq.mpr ⟨_, _, [], _, rfl, rfl, matches_loop_one.mpr ⟨any, rfl⟩, ?_⟩
    refine matches_seq.mpr ⟨_, _, [], _, rfl, rfl, .one rfl, ?_⟩
    refine matches_seq.mpr ⟨_, _, [_], _, rfl, rfl, matches_numeral.mpr ⟨ofRow, rfl⟩, ?_⟩
    refine matches_seq.mpr ⟨_, _, [], _, rfl, rfl, .one rfl, ?_⟩
    refine matches_seq.mpr ⟨_, _, [_], _, rfl, rfl, matches_numeral.mpr ⟨ofColumn, rfl⟩, ?_⟩
    exact matches_seq_empty.mpr (.anchor rfl)

end Matches

/-! ## The scanner -/

/-- On a position line, the path holds no end of line if the line holds none. -/
theorem any_iff_unbroken {path row column : Bytes} (ofRow : Decimal.isNumeral row = true)
    (ofColumn : Decimal.isNumeral column = true) :
    (∀ b ∈ path, ByteClass.any.has b = true) ↔
      Byte.carriageReturn ∉
          Position.indent ++ (path ++ Byte.colon :: row ++ Byte.colon :: column) ∧
        Byte.lineFeed ∉ Position.indent ++ (path ++ Byte.colon :: row ++ Byte.colon :: column) := by
  have outside : ∀ b, b ∉ Position.indent → b ≠ Byte.colon → Byte.isDigit b = false →
      (b ∈ Position.indent ++ (path ++ Byte.colon :: row ++ Byte.colon :: column) ↔ b ∈ path) := by
    intro b notIndent notColon notDigit
    simp [notIndent, notColon, Decimal.not_mem_of_isNumeral ofRow notDigit,
      Decimal.not_mem_of_isNumeral ofColumn notDigit]
  rw [outside Byte.carriageReturn (by decide) (by decide) (by decide),
    outside Byte.lineFeed (by decide) (by decide) (by decide)]
  constructor
  · intro accepted
    exact ⟨fun inside => absurd (accepted _ inside) (by decide),
      fun inside => absurd (accepted _ inside) (by decide)⟩
  · rintro ⟨noReturn, noFeed⟩ b inside
    have notFeed : b ≠ Byte.lineFeed := fun same => noFeed (same ▸ inside)
    have notReturn : b ≠ Byte.carriageReturn := fun same => noReturn (same ▸ inside)
    exact Bool.and_eq_true_iff.mpr ⟨bne_iff_ne.mpr notFeed, bne_iff_ne.mpr notReturn⟩

/-- The captures of a match are read as the scanner reads the line. -/
theorem positionOfCaptures?_of_matches {line : Bytes} {taken : Taken}
    (inside : node.Matches [] line [] taken) {found : Pattern.Captures}
    (same : ∀ i, found.get? i = (Pattern.Captures.record [] taken).get? i) :
    positionOfCaptures? found = Position.scan? line := by
  obtain ⟨path, row, column, rfl, -, ofRow, ofColumn, rfl⟩ := matches_node.mp inside
  obtain ⟨cut, frontCut⟩ := Position.splitLast?_position path ofRow ofColumn
  have first : found.get? 1 = some row := same 1
  have second : found.get? 2 = some column := same 2
  rw [Position.scan?_indent, cut, Option.bind_some, frontCut]
  simp only [positionOfCaptures?]
  rw [first, second]
  rfl

/-- The pattern accepts the lines without end of line that the scanner accepts, among others. -/
theorem exists_matches_of_scan? {line : Bytes} {position : Position}
    (noReturn : Byte.carriageReturn ∉ line) (noFeed : Byte.lineFeed ∉ line)
    (found : Position.scan? line = some position) : ∃ taken, node.Matches [] line [] taken := by
  obtain ⟨row, column, ⟨path, rfl, ofRow, ofColumn⟩, -⟩ := Position.scan?_eq_some.mp found
  have accepted := (any_iff_unbroken ofRow ofColumn).mpr ⟨noReturn, noFeed⟩
  exact ⟨_, matches_node.mpr ⟨path, row, column, rfl, accepted, ofRow, ofColumn, rfl⟩⟩

theorem unbroken_of_matches {line : Bytes} {taken : Taken}
    (inside : node.Matches [] line [] taken) :
    Byte.carriageReturn ∉ line ∧ Byte.lineFeed ∉ line := by
  obtain ⟨path, row, column, rfl, accepted, ofRow, ofColumn, -⟩ := matches_node.mp inside
  exact (any_iff_unbroken ofRow ofColumn).mp accepted

/-- Matching a line and reading the captures is scanning it, if it holds no end of line. -/
theorem matchLine?_bind (line : Bytes) :
    (node.matchLine? line).bind positionOfCaptures? =
      if Byte.carriageReturn ∉ line ∧ Byte.lineFeed ∉ line then Position.scan? line else none := by
  cases accepted : node.matchLine? line with
  | some found =>
    obtain ⟨taken, inside, same⟩ := Pattern.matchLine?_sound plain_node accepted
    rw [if_pos (unbroken_of_matches inside)]
    exact positionOfCaptures?_of_matches inside same
  | none =>
    split
    · next unbroken =>
      cases found : Position.scan? line with
      | none => rfl
      | some position =>
        have matched := exists_matches_of_scan? unbroken.1 unbroken.2 found
        have some_ := (Pattern.matchLine?_isSome_iff plain_node line).mpr matched
        rw [accepted] at some_
        cases some_
    · rfl

end PositionPattern

/-- The pattern of position lines can be read, and reads every line as the scanner does: a line
within the length that holds no end of line gives the same position or none, and any other line
gives none. -/
theorem readMatcher_positionPattern :
    ∃ matcher, readMatcher positionPattern = .ok matcher ∧
      ∀ line, matcher line =
        if line.length ≤ longestLine ∧ Byte.carriageReturn ∉ line ∧ Byte.lineFeed ∉ line then
          Position.scan? line
        else none := by
  refine ⟨matcherOf ⟨PositionPattern.expr, 2⟩, ?_, fun line => ?_⟩
  · simp only [readMatcher]
    rw [PositionPattern.read_positionPattern]
  · have matches_ : matcherOf ⟨PositionPattern.expr, 2⟩ line =
        if line.length ≤ longestLine && decide (2 ≤ 2) then
          (PositionPattern.node.matchLine? line).bind positionOfCaptures?
        else none := rfl
    rw [matches_, PositionPattern.matchLine?_bind]
    by_cases short : line.length ≤ longestLine
    · simp [short]
    · simp [short]

end Diagnostics

end CueFront
