import CueFront.Diagnostics.Custom
import CueFront.Proofs.Diagnostics.Position
import CueFront.Proofs.Pattern.Pieces

/-!
# Positions by pattern keep to the line and to the numbers

A pattern comes from the caller, so its groups may capture anything: a sign, a space, zeros, a
number that is too large, or nothing at all.  What counts is how the two captures are read
(`matcherOf_eq_some`).  Each must be the numeral of a number between one and the limit
(`Decimal.Denotes`), and then the line is a position, else it is not (`matcherOf_of_unreadable`).

So the matcher of a pattern keeps what the parser takes for granted of any matcher
(`Matcher.Lawful`), as the scanner does: it names places in range only, and none in a blank line,
where a pattern has only pieces of the line to capture.  Hence the problems of a report are in
range.
-/

namespace CueFront

/-- What the groups of a pattern capture when it matches the whole line. -/
def Pattern.Readable.matchLine? (pattern : Readable) (line : Bytes) : Option Captures :=
  (pattern.expr.unfold 0).1.matchLine? line

namespace Diagnostics

/-! ## Blank lines -/

/-- Captures in a blank line name no position, for the blank text is no numeral. -/
theorem positionOfCaptures?_blank {captures : Pattern.Captures} (within : captures.Within []) :
    positionOfCaptures? captures = none := by
  simp only [positionOfCaptures?]
  cases captured : captures.get? 1 with
  | none => rfl
  | some text =>
    obtain rfl : text = [] := List.infix_nil.mp (within 1 text captured)
    rfl

theorem matcherOf_blank (pattern : Pattern.Readable) : matcherOf pattern [] = none := by
  simp only [matcherOf]
  split
  · cases accepted : (pattern.expr.unfold 0).1.matchLine? [] with
    | none => rfl
    | some captures => exact positionOfCaptures?_blank (Pattern.matchLine?_within accepted)
  · rfl

/-- A pattern that can be read describes the position lines of what was read. -/
theorem readMatcher_eq_ok {pattern : Bytes} {matcher : Matcher} :
    readMatcher pattern = .ok matcher ↔
      ∃ readable, Pattern.read pattern = .ok readable ∧ matcherOf readable = matcher := by
  simp only [readMatcher]
  cases Pattern.read pattern with
  | error error => simp
  | ok readable => simp

/-- No pattern finds a position in a blank line. -/
theorem readMatcher_blank {pattern : Bytes} {matcher : Matcher}
    (read : readMatcher pattern = .ok matcher) : matcher [] = none := by
  obtain ⟨readable, -, rfl⟩ := readMatcher_eq_ok.mp read
  exact matcherOf_blank readable

/-! ## Captures that are read -/

theorem Position.readOrdinal?_eq_some_iff_denotes {text : Bytes} {n : Nat} :
    readOrdinal? text = some n ↔ Decimal.Denotes 1 2147483647 text n :=
  readOrdinal?_eq_some.trans Decimal.denotes_iff.symm

/-- What a group captured is no line or column: nothing, no numeral, or a number out of range. -/
def Unreadable : Option Bytes → Prop
  | none => True
  | some text => text = [] ∨ (∃ b ∈ text, Byte.isDigit b = false) ∨ Decimal.value text = 0 ∨
      2147483647 < Decimal.value text

theorem Unreadable.not_denotes {text : Bytes} (unreadable : Unreadable (some text)) (n : Nat) :
    ¬ Decimal.Denotes 1 2147483647 text n := by
  rintro ⟨nonempty, digits, rfl, positive, fits⟩
  rcases unreadable with blank | ⟨b, inside, other⟩ | zero | large
  · exact nonempty blank
  · exact Bool.eq_false_iff.mp other (digits b inside)
  · omega
  · omega

/-- Two captures name a position if each is the numeral of a number in range. -/
theorem positionOfCaptures?_eq_some {captures : Pattern.Captures} {l c : Nat} :
    positionOfCaptures? captures = some ⟨l, c⟩ ↔
      ∃ row column, captures.get? 1 = some row ∧ captures.get? 2 = some column ∧
        Decimal.Denotes 1 2147483647 row l ∧ Decimal.Denotes 1 2147483647 column c := by
  simp only [← Position.readOrdinal?_eq_some_iff_denotes]
  constructor
  · intro found
    obtain ⟨row, first, found⟩ := Option.bind_eq_some_iff.mp found
    obtain ⟨line, readRow, found⟩ := Option.bind_eq_some_iff.mp found
    obtain ⟨column, second, found⟩ := Option.bind_eq_some_iff.mp found
    obtain ⟨place, readColumn, same⟩ := Option.bind_eq_some_iff.mp found
    obtain ⟨rfl, rfl⟩ := Position.mk.inj (Option.some.inj same)
    exact ⟨row, column, first, second, readRow, readColumn⟩
  · rintro ⟨row, column, first, second, readRow, readColumn⟩
    simp [positionOfCaptures?, first, second, readRow, readColumn]

/-! ## What a pattern reads -/

theorem matcherOf_eq (pattern : Pattern.Readable) (line : Bytes) :
    matcherOf pattern line =
      if line.length ≤ longestLine ∧ 2 ≤ pattern.groups then
        (pattern.matchLine? line).bind positionOfCaptures?
      else none := by
  simp only [matcherOf, Bool.and_eq_true, decide_eq_true_eq]
  rfl

/-- A pattern reads a line as two numbers exactly if the line is not too long, the pattern matches
all of it, and its first two groups captured the numerals of two numbers in range. -/
theorem matcherOf_eq_some {pattern : Pattern.Readable} {line : Bytes} {l c : Nat} :
    matcherOf pattern line = some ⟨l, c⟩ ↔
      line.length ≤ 4096 ∧ 2 ≤ pattern.groups ∧
        ∃ captures row column, pattern.matchLine? line = some captures ∧
          captures.get? 1 = some row ∧ captures.get? 2 = some column ∧
          Decimal.Denotes 1 2147483647 row l ∧ Decimal.Denotes 1 2147483647 column c := by
  rw [matcherOf_eq, longestLine]
  split
  · next tried =>
    simp only [Option.bind_eq_some_iff, positionOfCaptures?_eq_some, tried, true_and,
      exists_and_left]
  · next refused =>
    refine ⟨nofun, ?_⟩
    rintro ⟨short, groups, -⟩
    exact absurd ⟨short, groups⟩ refused

/-- A capture that is no line or column makes the line no position. -/
theorem matcherOf_of_unreadable {pattern : Pattern.Readable} {line : Bytes}
    {captures : Pattern.Captures} (matched : pattern.matchLine? line = some captures)
    (unreadable : Unreadable (captures.get? 1) ∨ Unreadable (captures.get? 2)) :
    matcherOf pattern line = none := by
  refine Option.eq_none_iff_forall_ne_some.mpr ?_
  rintro ⟨l, c⟩ found
  obtain ⟨-, -, captures', row, column, matched', first, second, ofRow, ofColumn⟩ :=
    matcherOf_eq_some.mp found
  cases matched.symm.trans matched'
  rcases unreadable with unreadable | unreadable
  · exact (first ▸ unreadable).not_denotes l ofRow
  · exact (second ▸ unreadable).not_denotes c ofColumn

/-! ## What parsers take for granted -/

/-- A line and a column as they are counted. -/
structure Position.InRange (position : Position) : Prop where
  line : 1 ≤ position.line ∧ position.line ≤ 2147483647
  column : 1 ≤ position.column ∧ position.column ≤ 2147483647

/-- The matcher names places in range only, and none in a blank line. -/
structure Matcher.Lawful (matcher : Matcher) : Prop where
  blank : matcher [] = none
  inRange : ∀ line position, matcher line = some position → position.InRange

theorem Position.inRange_of_denotes {row column : Bytes} {l c : Nat}
    (ofRow : Decimal.Denotes 1 2147483647 row l)
    (ofColumn : Decimal.Denotes 1 2147483647 column c) : InRange ⟨l, c⟩ :=
  ⟨⟨ofRow.least_le, ofRow.le_most⟩, ofColumn.least_le, ofColumn.le_most⟩

theorem lawful_scan? : Matcher.Lawful Position.scan? where
  blank := rfl
  inRange := by
    rintro line ⟨l, c⟩ found
    obtain ⟨row, column, -, readRow, readColumn⟩ := Position.scan?_eq_some.mp found
    rw [Position.readOrdinal?_eq_some_iff_denotes] at readRow readColumn
    exact Position.inRange_of_denotes readRow readColumn

theorem lawful_matcherOf (pattern : Pattern.Readable) : Matcher.Lawful (matcherOf pattern) where
  blank := matcherOf_blank pattern
  inRange := by
    rintro line ⟨l, c⟩ found
    obtain ⟨-, -, -, row, column, -, -, -, ofRow, ofColumn⟩ := matcherOf_eq_some.mp found
    exact Position.inRange_of_denotes ofRow ofColumn

/-- The problem names a place as it is counted. -/
structure Record.InRange (record : Record) : Prop where
  line : 1 ≤ record.line ∧ record.line ≤ 2147483647
  column : 1 ≤ record.column ∧ record.column ≤ 2147483647

/-- The places of the problems are those the matcher names. -/
theorem Parser.inRange_of_mem_parse (parser : Parser) (lawful : parser.matcher.Lawful)
    {report file : Bytes} {record : Record} (inside : record ∈ parser.parse report file) :
    record.InRange := by
  obtain ⟨block, -, inBlock⟩ := List.mem_flatMap.mp inside
  obtain ⟨line, -, found⟩ := List.mem_filterMap.mp inBlock
  obtain ⟨position, accepted, rfl⟩ := Option.map_eq_some_iff.mp found
  obtain ⟨⟨line_pos, line_le⟩, column_pos, column_le⟩ := lawful.inRange line position accepted
  exact ⟨⟨Int.ofNat_le.mpr line_pos, Int.ofNat_le.mpr line_le⟩,
    Int.ofNat_le.mpr column_pos, Int.ofNat_le.mpr column_le⟩

/-- What the matcher of a pattern does, whatever the pattern.

* It reads a line as two numbers exactly if the line is not too long, the pattern matches all of it,
  and the first two groups captured the numerals of two numbers in range.
* A match in which one of the two groups captured nothing, no numeral, or a number out of range
  gives nothing.
* It rejects the blank line, and the problems of a report are in range, as with the scanner. -/
theorem readMatcher_lawful {pattern : Bytes} {matcher : Matcher}
    (read : readMatcher pattern = .ok matcher) :
    (∃ readable, Pattern.read pattern = .ok readable ∧
      (∀ line l c, matcher line = some ⟨l, c⟩ ↔
        line.length ≤ 4096 ∧ 2 ≤ readable.groups ∧
          ∃ captures row column, readable.matchLine? line = some captures ∧
            captures.get? 1 = some row ∧ captures.get? 2 = some column ∧
            Decimal.Denotes 1 2147483647 row l ∧ Decimal.Denotes 1 2147483647 column c) ∧
      ∀ line captures, readable.matchLine? line = some captures →
        Unreadable (captures.get? 1) ∨ Unreadable (captures.get? 2) → matcher line = none) ∧
    ∀ trusted ∈ [matcher, Position.scan?],
      trusted [] = none ∧
      ∀ indent report file,
        ∀ record ∈ ({ matcher := trusted, indent } : Parser).parse report file,
          record.InRange := by
  obtain ⟨readable, isRead, rfl⟩ := readMatcher_eq_ok.mp read
  refine ⟨⟨readable, isRead, fun line l c => matcherOf_eq_some,
    fun line captures => matcherOf_of_unreadable⟩, ?_⟩
  have lawful : ∀ trusted ∈ [matcherOf readable, Position.scan?], Matcher.Lawful trusted :=
    List.forall_mem_cons.mpr ⟨lawful_matcherOf readable, by simp [lawful_scan?]⟩
  intro trusted isOne
  refine ⟨(lawful trusted isOne).blank, fun indent report file record inside => ?_⟩
  exact Parser.inRange_of_mem_parse { matcher := trusted, indent } (lawful trusted isOne) inside

/-- A pattern whose first group captures anything up to a comma and whose second group may take no
part. -/
def loosePattern : Bytes := utf8 ">([^,]*),(\\d+)?"

theorem loosePattern_read :
    ∃ matcher, readMatcher loosePattern = .ok matcher ∧
      matcher (utf8 ">007,2147483647") = some ⟨7, 2147483647⟩ ∧
      matcher (utf8 ">+5,1") = none ∧ matcher (utf8 ">5,") = none ∧ matcher [] = none := by
  obtain ⟨matcher, accepted⟩ : ∃ matcher, readMatcher loosePattern = .ok matcher := ⟨_, rfl⟩
  obtain ⟨⟨readable, isRead, reads, refuses⟩, trusted⟩ := readMatcher_lawful accepted
  have matched : ∀ line captures, (Pattern.read loosePattern).toOption.bind (·.matchLine? line) =
      some captures → readable.matchLine? line = some captures := by
    intro line captures found
    rwa [isRead] at found
  have groups : (Pattern.read loosePattern).toOption.map (·.groups) = some 2 := rfl
  rw [isRead] at groups
  have numerals : readable.matchLine? (utf8 ">007,2147483647") =
      some [(2, utf8 "2147483647"), (1, utf8 "007")] := matched _ _ (by decide +kernel)
  have signed : readable.matchLine? (utf8 ">+5,1") = some [(2, utf8 "1"), (1, utf8 "+5")] :=
    matched _ _ (by decide +kernel)
  have alone : readable.matchLine? (utf8 ">5,") = some [(1, utf8 "5")] :=
    matched _ _ (by decide +kernel)
  have seven : Decimal.Denotes 1 2147483647 (utf8 "007") 7 :=
    Decimal.denotes_iff.mpr ⟨by decide, by decide, by decide, by decide⟩
  have most : Decimal.Denotes 1 2147483647 (utf8 "2147483647") 2147483647 :=
    Decimal.denotes_iff.mpr ⟨by decide, by decide, by decide, by decide⟩
  refine ⟨matcher, accepted, ?_, ?_, ?_, (trusted matcher List.mem_cons_self).1⟩
  · exact (reads _ 7 2147483647).mpr
      ⟨by decide, (Option.some.inj groups).ge, _, _, _, numerals, rfl, rfl, seven, most⟩
  · exact refuses _ _ signed (.inl (.inr (.inl ⟨Byte.plus, by decide, by decide⟩)))
  · exact refuses _ _ alone (.inr trivial)

end Diagnostics

end CueFront
