import CueFront.Diagnostics.Parser
import CueFront.Proofs.Diagnostics.Lines

/-!
# Blocks and their lines

The blocks of a report hold its lines in order (`items_groupOrdered`), so two lists with the same
blocks are the same.  Written line by line, the blocks give the lines of the report back, each
without the carriage return that stands at its end.  Hence blocks that are written and grouped again
are the same exactly if no line of the report ends in a carriage return
(`group_endLines_group_iff`).
-/

namespace CueFront

namespace Diagnostics

section Grouping

variable {α : Type} (opens : α → Bool)

theorem items_prependItem (item : α) (blocks : List (Block α)) :
    (prependItem opens item blocks).flatMap Block.items = item :: blocks.flatMap Block.items := by
  cases blocks with
  | nil => rfl
  | cons next later =>
    rw [prependItem]
    split
    · rfl
    · rfl

/-- The blocks of a list hold its items, in order. -/
theorem items_groupOrdered (items : List α) :
    (groupOrdered opens items).flatMap Block.items = items := by
  induction items with
  | nil => rfl
  | cons item rest ih =>
    have step : groupOrdered opens (item :: rest) =
        prependItem opens item (groupOrdered opens rest) := rfl
    rw [step, items_prependItem, ih]

theorem groupOrdered_inj {items other : List α} :
    groupOrdered opens items = groupOrdered opens other ↔ items = other := by
  refine ⟨fun same => ?_, congrArg _⟩
  rw [← items_groupOrdered opens items, same, items_groupOrdered]

end Grouping

namespace Parser

/-- The lines of the blocks of a report are its lines. -/
theorem items_group (parser : Parser) (report : Bytes) :
    (parser.group report).flatMap Block.items = splitLines report :=
  items_groupOrdered _ (splitLines report)

theorem group_eq_group_iff {parser : Parser} {report other : Bytes} :
    parser.group report = parser.group other ↔ splitLines report = splitLines other :=
  groupOrdered_inj _

end Parser

/-- The lines of a text are those of the text they are written as, exactly if none of them ends in a
carriage return.  A blank line that is dropped at the end would be missing. -/
theorem splitLines_endLines_splitLines_iff (text : Bytes) :
    splitLines (endLines (splitLines text)) = splitLines text ↔
      ∀ line ∈ splitLines text, line.getLast? ≠ some Byte.carriageReturn := by
  rw [splitLines_endLines (lineFeed_not_mem_splitLines text)]
  constructor
  · intro same line inside
    have whole : dropBlankTail ((splitLines text).map stripReturn) =
        (splitLines text).map stripReturn :=
      (dropBlankTail_isPrefix _).eq_of_length (by rw [same, List.length_map])
    have stripped : (splitLines text).map stripReturn = (splitLines text).map id := by
      rw [← whole, same, List.map_id]
    exact stripReturn_eq_self_iff.mp (List.map_inj_left.mp stripped line inside)
  · intro bare
    rw [map_stripReturn_of_ne bare, dropBlankTail_splitLines]

namespace Parser

/-- Blocks that are written line by line, each line ended by a line feed, and grouped again are the
same blocks exactly if no line of the report ends in a carriage return. -/
theorem group_endLines_group_iff (parser : Parser) (report : Bytes) :
    parser.group (endLines ((parser.group report).flatMap Block.items)) = parser.group report ↔
      ∀ line ∈ splitLines report, line.getLast? ≠ some Byte.carriageReturn := by
  rw [items_group, group_eq_group_iff]
  exact splitLines_endLines_splitLines_iff report

/-- A carriage return that a line keeps, since no line feed or a second carriage return comes after
it, is lost the second time. -/
example : ({} : Parser).group (utf8 "a\r\r\n   b\r") = [⟨utf8 "a\r", [utf8 "   b\r"]⟩] ∧
    ({} : Parser).group (endLines [utf8 "a\r", utf8 "   b\r"]) = [⟨utf8 "a", [utf8 "   b"]⟩] := by
  decide

end Parser

end Diagnostics

end CueFront
