import CueFront.Pattern.Node

/-!
# The language of a pattern

`Node.Matches` says which texts a pattern describes, with no mention of how they are found.  A
text stands between what comes before it and what comes after it, since a condition on a place
looks at both.  The texts that groups capture are listed in the order in which the groups end, so
the last entry of a group is the one that counts.

Back references and lookahead have no rule here.  `Node.Plain` are the patterns without them.
-/

namespace CueFront

namespace Pattern

/-! ## Texts that match -/

/-- Texts that groups captured, in the order in which the groups ended. -/
abbrev Taken := List (Nat × Bytes)

/-- Whether a condition holds between two texts. -/
def Anchor.holds (before after : Bytes) : Anchor → Bool
  | .lineStart => before.isEmpty
  | .lineEnd => after.isEmpty
  | .wordEdge negated =>
    (before.getLast?.any Byte.isWord != after.head?.any Byte.isWord) != negated

namespace Node

/-- A pattern matches a text between two others and captures some texts. -/
inductive Matches : Node → Bytes → Bytes → Bytes → Taken → Prop where
  | empty {before after} : Matches .empty before [] after []
  | one {accepts before b after} :
    accepts.has b = true →
    Matches (.one accepts) before [b] after []
  | anchor {place before after} :
    place.holds before after = true →
    Matches (.anchor place) before [] after []
  | seq {first second before text text' after taken taken'} :
    Matches first before text (text' ++ after) taken →
    Matches second (before ++ text) text' after taken' →
    Matches (.seq first second) before (text ++ text') after (taken ++ taken')
  | left {first second before text after taken} :
    Matches first before text after taken →
    Matches (.alt first second) before text after taken
  | right {first second before text after taken} :
    Matches second before text after taken →
    Matches (.alt first second) before text after taken
  | group {index body before text after taken} :
    Matches body before text after taken →
    Matches (.group index body) before text after (taken ++ [(index, text)])
  | done {number lazily body before after} :
    Matches (.loop number lazily body) before [] after []
  | pass {number lazily body before text text' after taken taken'} :
    Matches body before text (text' ++ after) taken →
    Matches (.loop number lazily body) (before ++ text) text' after taken' →
    Matches (.loop number lazily body) before (text ++ text') after (taken ++ taken')
  | skipped {number lazily body before after} :
    Matches (.skip number lazily body) before [] after []
  | once {number lazily body before text after taken} :
    Matches body before text after taken →
    Matches (.skip number lazily body) before text after taken

variable {before text after : Bytes} {taken : Taken}

/-! ### Reading a match off the pattern -/

theorem matches_empty : Matches .empty before text after taken ↔ text = [] ∧ taken = [] := by
  constructor
  · intro found
    cases found
    exact ⟨rfl, rfl⟩
  · rintro ⟨rfl, rfl⟩
    exact .empty

theorem matches_one {accepts : ByteClass} :
    Matches (.one accepts) before text after taken ↔
      ∃ b, accepts.has b = true ∧ text = [b] ∧ taken = [] := by
  constructor
  · intro found
    cases found with
    | one accepted => exact ⟨_, accepted, rfl, rfl⟩
  · rintro ⟨b, accepted, rfl, rfl⟩
    exact .one accepted

theorem matches_anchor {place : Anchor} :
    Matches (.anchor place) before text after taken ↔
      place.holds before after = true ∧ text = [] ∧ taken = [] := by
  constructor
  · intro found
    cases found with
    | anchor holds => exact ⟨holds, rfl, rfl⟩
  · rintro ⟨holds, rfl, rfl⟩
    exact .anchor holds

theorem matches_seq {first second : Node} :
    Matches (.seq first second) before text after taken ↔
      ∃ front back taken₁ taken₂, text = front ++ back ∧ taken = taken₁ ++ taken₂ ∧
        Matches first before front (back ++ after) taken₁ ∧
        Matches second (before ++ front) back after taken₂ := by
  constructor
  · intro found
    cases found with
    | seq front back => exact ⟨_, _, _, _, rfl, rfl, front, back⟩
  · rintro ⟨_, _, _, _, rfl, rfl, front, back⟩
    exact .seq front back

theorem matches_group {index : Nat} {body : Node} :
    Matches (.group index body) before text after taken ↔
      ∃ inner, taken = inner ++ [(index, text)] ∧ Matches body before text after inner := by
  constructor
  · intro found
    cases found with
    | group inner => exact ⟨_, rfl, inner⟩
  · rintro ⟨_, rfl, inner⟩
    exact .group inner

/-- A repeated class matches the texts of bytes that the class accepts. -/
theorem matches_loop_one {number : Nat} {lazily : Bool} {accepts : ByteClass} :
    Matches (.loop number lazily (.one accepts)) before text after taken ↔
      (∀ b ∈ text, accepts.has b = true) ∧ taken = [] := by
  constructor
  · intro found
    generalize same : Node.loop number lazily (.one accepts) = node at found
    induction found with
    | done => exact ⟨fun b inside => absurd inside List.not_mem_nil, rfl⟩
    | pass first _ _ ih =>
      cases same
      obtain ⟨b, accepted, rfl, rfl⟩ := matches_one.mp first
      obtain ⟨others, rfl⟩ := ih rfl
      exact ⟨List.forall_mem_cons.mpr ⟨accepted, others⟩, rfl⟩
    | _ => cases same
  · rintro ⟨accepted, rfl⟩
    induction text generalizing before with
    | nil => exact .done
    | cons b rest ih =>
      obtain ⟨first, others⟩ := List.forall_mem_cons.mp accepted
      exact .pass (.one first) (ih others)

theorem matches_seq_empty {node : Node} :
    Matches (.seq node .empty) before text after taken ↔ Matches node before text after taken := by
  rw [matches_seq]
  constructor
  · rintro ⟨front, back, taken₁, taken₂, rfl, rfl, inside, nothing⟩
    obtain ⟨rfl, rfl⟩ := matches_empty.mp nothing
    rw [List.append_nil, List.append_nil]
    exact inside
  · intro inside
    exact ⟨text, [], taken, [], (List.append_nil text).symm, (List.append_nil taken).symm, inside,
      .empty⟩

/-- A class that is repeated at least once matches a text that is not empty. -/
theorem matches_plus_one {number : Nat} {lazily : Bool} {accepts : ByteClass} :
    Matches (.seq (.one accepts) (.loop number lazily (.one accepts))) before text after taken ↔
      text ≠ [] ∧ (∀ b ∈ text, accepts.has b = true) ∧ taken = [] := by
  rw [matches_seq]
  constructor
  · rintro ⟨front, back, taken₁, taken₂, rfl, rfl, first, others⟩
    obtain ⟨b, accepted, rfl, rfl⟩ := matches_one.mp first
    obtain ⟨accepted', rfl⟩ := matches_loop_one.mp others
    exact ⟨List.cons_ne_nil b back, List.forall_mem_cons.mpr ⟨accepted, accepted'⟩, rfl⟩
  · rintro ⟨nonempty, accepted, rfl⟩
    cases text with
    | nil => exact absurd rfl nonempty
    | cons b rest =>
      obtain ⟨first, others⟩ := List.forall_mem_cons.mp accepted
      exact ⟨[b], rest, [], [], rfl, rfl, .one first, matches_loop_one.mpr ⟨others, rfl⟩⟩

/-- A number of copies of a class matches the texts of that length. -/
theorem matches_copies_one {accepts : ByteClass} {count n : Nat} :
    Matches (copies (Expr.one accepts).unfold count n).1 before text after taken ↔
      text.length = count ∧ (∀ b ∈ text, accepts.has b = true) ∧ taken = [] := by
  induction count generalizing before text taken with
  | zero =>
    show Matches .empty before text after taken ↔ _
    rw [matches_empty, List.length_eq_zero_iff]
    constructor
    · rintro ⟨rfl, rfl⟩
      exact ⟨rfl, fun b inside => absurd inside List.not_mem_nil, rfl⟩
    · rintro ⟨rfl, -, rfl⟩
      exact ⟨rfl, rfl⟩
  | succ count ih =>
    cases count with
    | zero =>
      show Matches (.one accepts) before text after taken ↔ _
      rw [matches_one, List.length_eq_one_iff]
      constructor
      · rintro ⟨b, accepted, rfl, rfl⟩
        exact ⟨⟨b, rfl⟩, List.forall_mem_singleton.mpr accepted, rfl⟩
      · rintro ⟨⟨b, rfl⟩, accepted, rfl⟩
        exact ⟨b, accepted b List.mem_cons_self, rfl, rfl⟩
    | succ count =>
      show Matches (.seq (.one accepts) (copies (Expr.one accepts).unfold (count + 1) n).1)
        before text after taken ↔ _
      rw [matches_seq]
      constructor
      · rintro ⟨front, back, taken₁, taken₂, rfl, rfl, first, others⟩
        obtain ⟨b, accepted, rfl, rfl⟩ := matches_one.mp first
        obtain ⟨length, accepted', rfl⟩ := ih.mp others
        exact ⟨congrArg (· + 1) length, List.forall_mem_cons.mpr ⟨accepted, accepted'⟩, rfl⟩
      · rintro ⟨length, accepted, rfl⟩
        cases text with
        | nil => cases length
        | cons b rest =>
          obtain ⟨first, others⟩ := List.forall_mem_cons.mp accepted
          exact ⟨[b], rest, [], [], rfl, rfl, .one first,
            ih.mpr ⟨Nat.succ.inj length, others, rfl⟩⟩

/-- A pass that consumes nothing does not change what a loop matches. -/
theorem Matches.loop_progress {number : Nat} {lazily : Bool} {body : Node}
    (found : Matches (.loop number lazily body) before text after taken) :
    text = [] ∨ ∃ front back taken₁ taken₂, front ≠ [] ∧ text = front ++ back ∧
      Matches body before front (back ++ after) taken₁ ∧
      Matches (.loop number lazily body) (before ++ front) back after taken₂ := by
  generalize same : Node.loop number lazily body = node at found
  induction found with
  | done => exact .inl rfl
  | @pass _ _ _ before front back after _ _ first later _ ih =>
    cases same
    cases front with
    | nil =>
      have further := ih rfl
      rw [List.append_nil] at further
      exact further
    | cons b front =>
      exact .inr ⟨b :: front, back, _, _, List.cons_ne_nil b front, rfl, first, later⟩
  | _ => cases same

/-! ## Plain patterns -/

/-- The numbers of the places in a pattern that may be repeated or skipped. -/
def numbers : Node → List Nat
  | .empty | .one _ | .anchor _ | .backref _ => []
  | .seq first second | .alt first second => first.numbers ++ second.numbers
  | .group _ body | .look _ body => body.numbers
  | .loop number _ body | .skip number _ body => number :: body.numbers

/-- No back reference or lookahead occurs, and a place that may be repeated has a number that its
body does not use. -/
def Plain : Node → Prop
  | .empty | .one _ | .anchor _ => True
  | .backref _ | .look _ _ => False
  | .seq first second | .alt first second => first.Plain ∧ second.Plain
  | .group _ body => body.Plain
  | .loop number _ body | .skip number _ body => number ∉ body.numbers ∧ body.Plain

end Node

/-! ## Unfolding -/

/-- No back reference or lookahead occurs. -/
def Expr.Plain : Expr → Prop
  | .empty | .one _ | .anchor _ => True
  | .backref _ | .look _ _ => False
  | .seq first second | .alt first second => first.Plain ∧ second.Plain
  | .group _ body | .rep _ _ body => body.Plain

/-- A builder takes no number below the one it is given, and builds plain nodes. -/
structure Builds (build : Numbered) (n : Nat) : Prop where
  next_le : n ≤ (build n).2
  number_le : ∀ number ∈ (build n).1.numbers, n ≤ number
  plain : (build n).1.Plain

namespace Builds

theorem empty (n : Nat) : Builds (fun n => (.empty, n)) n :=
  ⟨Nat.le_refl n, fun _ inside => absurd inside List.not_mem_nil, trivial⟩

/-- Builders one behind the other take numbers one behind the other. -/
theorem inSequence {first second : Numbered} (ofFirst : ∀ n, Builds first n)
    (ofSecond : ∀ n, Builds second n) (n : Nat) : Builds (inSequence first second) n := by
  have front := ofFirst n
  have back := ofSecond (first n).2
  refine ⟨Nat.le_trans front.next_le back.next_le, ?_, front.plain, back.plain⟩
  intro number inside
  rcases List.mem_append.mp inside with inside | inside
  · exact front.number_le number inside
  · exact Nat.le_trans front.next_le (back.number_le number inside)

/-- The body of a repetition is built with the numbers behind that of the repetition. -/
theorem not_mem_body {body : Numbered} {n : Nat} (ofBody : Builds body (n + 1)) :
    n ∉ (body (n + 1)).1.numbers := fun inside =>
  Nat.not_succ_le_self n (ofBody.number_le n inside)

theorem number_le_body {body : Numbered} {n : Nat} (ofBody : Builds body (n + 1)) :
    ∀ number ∈ n :: (body (n + 1)).1.numbers, n ≤ number := by
  intro number inside
  rcases List.mem_cons.mp inside with rfl | inside
  · exact Nat.le_refl number
  · exact Nat.le_of_succ_le (ofBody.number_le number inside)

theorem loop {body : Numbered} (ofBody : ∀ n, Builds body n) (lazily : Bool) (n : Nat) :
    Builds (fun n => (.loop n lazily (body (n + 1)).1, (body (n + 1)).2)) n :=
  have pass := ofBody (n + 1)
  ⟨Nat.le_of_succ_le pass.next_le, number_le_body pass, not_mem_body pass, pass.plain⟩

theorem skip {body : Numbered} (ofBody : ∀ n, Builds body n) (lazily : Bool) (n : Nat) :
    Builds (fun n => (.skip n lazily (body (n + 1)).1, (body (n + 1)).2)) n :=
  have pass := ofBody (n + 1)
  ⟨Nat.le_of_succ_le pass.next_le, number_le_body pass, not_mem_body pass, pass.plain⟩

/-- Every copy takes numbers of its own. -/
theorem copies {body : Numbered} (ofBody : ∀ n, Builds body n) (count n : Nat) :
    Builds (copies body count) n := by
  induction count generalizing n with
  | zero => exact empty n
  | succ count ih =>
    cases count with
    | zero => exact ofBody n
    | succ count => exact inSequence ofBody ih n

theorem upTo {body : Numbered} (ofBody : ∀ n, Builds body n) (lazily : Bool) (count n : Nat) :
    Builds (upTo body lazily count) n := by
  induction count generalizing n with
  | zero => exact empty n
  | succ count ih => exact skip (inSequence ofBody ih) lazily n

/-- A repetition is built of copies, loops and skips. -/
theorem repetition {body : Numbered} (ofBody : ∀ n, Builds body n) (times : Times)
    (lazily : Bool) (n : Nat) : Builds (repetition times lazily body) n := by
  cases times with
  | star => exact loop ofBody lazily n
  | plus =>
    have pass := ofBody (n + 1)
    have passes := loop ofBody lazily n
    refine ⟨passes.next_le, ?_, pass.plain, passes.plain⟩
    intro number inside
    rcases List.mem_append.mp inside with inside | inside
    · exact Nat.le_of_succ_le (pass.number_le number inside)
    · exact passes.number_le number inside
  | optional => exact skip ofBody lazily n
  | between least most =>
    cases most with
    | none => exact inSequence (copies ofBody least) (loop ofBody lazily) n
    | some most => exact inSequence (copies ofBody least) (upTo ofBody lazily (most - least)) n

end Builds

/-- A plain expression unfolds into a plain node. -/
theorem Expr.builds_unfold {expr : Expr} (plain : expr.Plain) (n : Nat) :
    Builds expr.unfold n := by
  induction expr generalizing n with
  | empty => exact .empty n
  | one accepts => exact ⟨Nat.le_refl n, fun _ inside => absurd inside List.not_mem_nil, trivial⟩
  | anchor place => exact ⟨Nat.le_refl n, fun _ inside => absurd inside List.not_mem_nil, trivial⟩
  | backref index => exact plain.elim
  | look negated body => exact plain.elim
  | seq first second ihFirst ihSecond =>
    exact .inSequence (ihFirst plain.1) (ihSecond plain.2) n
  | alt first second ihFirst ihSecond =>
    have both := Builds.inSequence (ihFirst plain.1) (ihSecond plain.2) n
    exact ⟨both.next_le, both.number_le, both.plain⟩
  | group index body ih =>
    have inner := ih plain n
    exact ⟨inner.next_le, inner.number_le, inner.plain⟩
  | rep times lazily body ih => exact .repetition (ih plain) times lazily n

/-- An expression without references and lookahead unfolds to a pattern without them. -/
theorem Expr.plain_unfold {expr : Expr} (plain : expr.Plain) (n : Nat) : (expr.unfold n).1.Plain :=
  (Expr.builds_unfold plain n).plain

end Pattern

end CueFront
