import CueFront.Proofs.Pattern.Soundness

/-!
# The matcher finds every match

A place that repeats may be entered at one position twice and no more, so a match could be lost
when a loop is refused.  `run_complete` says that no match of a plain pattern is.  Passes that
consume nothing may be left out of a match (`Node.Matches.loop_progress`).  What is left enters
every place at positions that grow, so each entry is the first at its position: the thread is
`Fresh` for the numbers of the pattern that comes next, and stays so behind a match (`Since`).

`matchLine?_isSome_iff` puts the two directions together.
-/

namespace CueFront

namespace Pattern

/-! ## Success -/

/-- Some way was accepted. -/
def Succeeds (outcome : Outcome) : Prop := ∃ captures, outcome = .ok captures

theorem Succeeds.mapError {outcome : Outcome} (succeeds : Succeeds outcome)
    (f : Captures → Captures) : Succeeds (outcome.mapError f) := by
  obtain ⟨captures, rfl⟩ := succeeds
  exact ⟨captures, rfl⟩

section Ways

variable {thread : Thread} {first second pass leave : Continuation}

theorem succeeds_first (way : Succeeds (first thread)) :
    Succeeds (preferring thread first second) := by
  obtain ⟨captures, way⟩ := way
  exact ⟨captures, preferring_eq_ok.mpr (.inl way)⟩

/-- The second way is tried with the captures that the first one leaves. -/
theorem succeeds_second (way : ∀ captures, Succeeds (second { thread with captures })) :
    Succeeds (preferring thread first second) := by
  cases outcome : first thread with
  | ok captures => exact ⟨captures, preferring_eq_ok.mpr (.inl outcome)⟩
  | error captures =>
    obtain ⟨found, way⟩ := way captures
    exact ⟨found, preferring_eq_ok.mpr (.inr ⟨captures, outcome, way⟩)⟩

/-- Passing is a way to succeed, whether it is preferred or not. -/
theorem succeeds_pass (number : Nat) (lazily : Bool)
    (way : ∀ captures, Succeeds (entering number pass { thread with captures })) :
    Succeeds (passOrLeave number lazily pass leave thread) := by
  rw [passOrLeave_eq]
  cases lazily with
  | false => exact succeeds_first (way thread.captures)
  | true => exact succeeds_second way

/-- Leaving is a way to succeed, whether it is preferred or not. -/
theorem succeeds_leave (number : Nat) (lazily : Bool)
    (way : ∀ captures, Succeeds (leave { thread with captures })) :
    Succeeds (passOrLeave number lazily pass leave thread) := by
  rw [passOrLeave_eq]
  cases lazily with
  | false => exact succeeds_second way
  | true => exact succeeds_first (way thread.captures)

end Ways

/-! ## Entries -/

namespace Thread

/-- No place with one of the numbers was entered at the thread's position. -/
def Fresh (thread : Thread) (numbers : List Nat) : Prop :=
  ∀ visit ∈ thread.visits, visit.number ∈ numbers → visit.position < thread.position

/-- Every place that was entered after `earlier` was entered in front of the thread's position. -/
def Since (thread earlier : Thread) : Prop :=
  ∀ visit ∈ thread.visits, visit.position < thread.position ∨ visit ∈ earlier.visits

/-- The thread inside a place that it had not entered at its position. -/
def entered (thread : Thread) (number : Nat) : Thread :=
  { thread with
    visits := ⟨number, thread.position, 1⟩ :: thread.visits.filter (·.number != number) }

theorem Since.refl (thread : Thread) : thread.Since thread := fun _ inside => .inr inside

theorem Since.trans {thread middle earlier : Thread} (later : thread.Since middle)
    (since : middle.Since earlier) (le : middle.position ≤ thread.position) :
    thread.Since earlier := by
  intro visit inside
  rcases later visit inside with before | inside
  · exact .inl before
  · exact (since visit inside).imp_left fun before => Nat.lt_of_lt_of_le before le

/-- An entry in front of the thread does not count. -/
theorem Since.of_entered {thread earlier : Thread} {number : Nat}
    (since : thread.Since (earlier.entered number)) (lt : earlier.position < thread.position) :
    thread.Since earlier := by
  intro visit inside
  rcases since visit inside with before | inside
  · exact .inl before
  · rcases List.mem_cons.mp inside with rfl | inside
    · exact .inl lt
    · exact .inr (List.mem_filter.mp inside).1

/-- A fresh place stays fresh while places are entered in front of the thread only. -/
theorem Fresh.since {thread earlier : Thread} {numbers : List Nat} (fresh : earlier.Fresh numbers)
    (since : thread.Since earlier) (le : earlier.position ≤ thread.position) :
    thread.Fresh numbers := by
  intro visit inside counted
  rcases since visit inside with before | inside
  · exact before
  · exact Nat.lt_of_lt_of_le (fresh visit inside counted) le

theorem Fresh.sub {thread : Thread} {numbers others : List Nat} (fresh : thread.Fresh numbers)
    (sub : others ⊆ numbers) : thread.Fresh others :=
  fun visit inside counted => fresh visit inside (sub counted)

/-- Inside a place, the body may be entered if it does not use the number of the place. -/
theorem Fresh.entered {thread : Thread} {number : Nat} {numbers : List Nat}
    (fresh : thread.Fresh (number :: numbers)) (distinct : number ∉ numbers) :
    (thread.entered number).Fresh numbers := by
  intro visit inside counted
  rcases List.mem_cons.mp inside with rfl | inside
  · exact absurd counted distinct
  · exact fresh visit (List.mem_filter.mp inside).1 (List.mem_cons_of_mem number counted)

theorem enter?_of_fresh {thread : Thread} {number : Nat} {numbers : List Nat}
    (fresh : thread.Fresh (number :: numbers)) :
    thread.enter? number = some (thread.entered number) := by
  simp only [enter?]
  cases found : thread.visits.find? (·.number == number) with
  | none => rfl
  | some visit =>
    have number_eq : visit.number = number := by simpa using List.find?_some found
    have before := fresh visit (List.mem_of_find?_eq_some found)
      (number_eq ▸ List.mem_cons_self)
    have other : (visit.position != thread.position) = true := bne_iff_ne.mpr (Nat.ne_of_lt before)
    simp only [other, if_true]
    rfl

end Thread

theorem entering_of_fresh {thread : Thread} {number : Nat} {numbers : List Nat}
    (fresh : thread.Fresh (number :: numbers)) (pass : Continuation) :
    entering number pass thread = pass (thread.entered number) := by
  simp only [entering]
  rw [Thread.enter?_of_fresh fresh]

/-! ## Following a match -/

/-- What follows succeeds between the two texts, whatever was captured, if every place that was
entered after `thread` was entered in front of the second text. -/
def Accepts (thread : Thread) (before after : Bytes) (next : Continuation) : Prop :=
  ∀ later : Thread, later.At before after → later.Since thread → Succeeds (next later)

namespace Accepts

variable {thread : Thread} {before after : Bytes} {next : Continuation}

/-- What follows succeeds at the thread itself. -/
theorem here (accepts : Accepts thread (before ++ []) after next) (here : thread.At before after)
    (captures : Captures) : Succeeds (next { thread with captures }) := by
  rw [List.append_nil] at accepts
  exact accepts _ (here.reset captures thread.visits) (.refl thread)

/-- The rest of a match, from the end of its first part. -/
theorem rest {later : Thread} {front back : Bytes}
    (accepts : Accepts thread (before ++ (front ++ back)) after next) (since : later.Since thread)
    (here : later.At (before ++ front) (back ++ after)) :
    Accepts later ((before ++ front) ++ back) after next := by
  intro last there sinceLater
  rw [List.append_assoc] at there
  have le : later.position ≤ last.position := by
    rw [here.position, there.position]
    simp only [List.length_append]
    omega
  exact accepts last there (sinceLater.trans since le)

end Accepts

theorem Thread.At.position_le {thread later : Thread} {before text after after' : Bytes}
    (here : thread.At before after) (there : later.At (before ++ text) after') :
    thread.position ≤ later.position := by
  rw [here.position, there.position, List.length_append]
  exact Nat.le_add_right _ _

/-- A pattern succeeds in front of a text that it matches, if it was not entered there and what
follows succeeds behind the text. -/
structure Complete (node : Node) : Prop where
  succeeds : ∀ {before text after taken} {thread : Thread} {next : Continuation},
    node.Matches before text after taken → thread.At before (text ++ after) →
    thread.Fresh node.numbers → Accepts thread (before ++ text) after next →
    Succeeds (node.run thread next)

/-- One pass through a body that consumes something. -/
theorem Complete.entering {body : Node} (complete : Complete body) {number : Nat}
    (distinct : number ∉ body.numbers) {before text after : Bytes} {taken : Taken}
    (inside : body.Matches before text after taken) (nonempty : text ≠ []) {thread : Thread}
    (here : thread.At before (text ++ after)) (fresh : thread.Fresh (number :: body.numbers))
    {next : Continuation} (accepts : Accepts thread (before ++ text) after next) :
    Succeeds (entering number (fun thread => body.run thread next) thread) := by
  rw [entering_of_fresh fresh]
  refine complete.succeeds inside (here.reset _ _) (fresh.entered distinct) ?_
  intro later there since
  have lt : thread.position < later.position := by
    rw [here.position, there.position, List.length_append]
    exact Nat.lt_add_of_pos_right (List.length_pos_iff.mpr nonempty)
  exact accepts later there (since.of_entered lt)

/-- Enough passes through a body find what a loop around the body matches.  Each pass consumes a
byte, so a bound of the length of the text is enough. -/
theorem Complete.passes {body : Node} (complete : Complete body) {number : Nat} {lazily : Bool}
    (distinct : number ∉ body.numbers) {before text after : Bytes} {taken : Taken}
    (inside : (Node.loop number lazily body).Matches before text after taken) {bound : Nat}
    (enough : text.length ≤ bound) {thread : Thread} (here : thread.At before (text ++ after))
    (fresh : thread.Fresh (number :: body.numbers)) {next : Continuation}
    (accepts : Accepts thread (before ++ text) after next) :
    Succeeds (passes number lazily body.run next bound thread) := by
  induction bound generalizing before text taken thread with
  | zero =>
    obtain rfl : text = [] := List.length_eq_zero_iff.mp (Nat.le_zero.mp enough)
    exact accepts.here here thread.captures
  | succ bound ih =>
    rcases inside.loop_progress with rfl | ⟨front, back, _, _, nonempty, rfl, first, others⟩
    · exact succeeds_leave number lazily (accepts.here here)
    · have shorter : back.length ≤ bound := by
        have pos := List.length_pos_iff.mpr nonempty
        rw [List.length_append] at enough
        omega
      rw [List.append_assoc] at here
      refine succeeds_pass number lazily fun captures => ?_
      refine complete.entering distinct first nonempty (here.reset captures thread.visits) fresh ?_
      intro later there since
      exact ih others shorter there (fresh.since since (here.position_le there))
        (accepts.rest since there)

/-- Every match of a plain pattern is found. -/
theorem run_complete {node : Node} (plain : node.Plain) : Complete node := by
  induction node with
  | empty =>
    refine ⟨fun {before text after taken thread next} inside here fresh accepts => ?_⟩
    obtain ⟨rfl, rfl⟩ := Node.matches_empty.mp inside
    exact accepts.here here thread.captures
  | one accepted =>
    refine ⟨fun {before text after taken thread next} inside here fresh accepts => ?_⟩
    obtain ⟨b, has, rfl, rfl⟩ := Node.matches_one.mp inside
    rw [run_one_of_has here.rest has]
    exact accepts _ here.advance fun _ entered => .inr entered
  | anchor place =>
    refine ⟨fun {before text after taken thread next} inside here fresh accepts => ?_⟩
    obtain ⟨holds, rfl, rfl⟩ := Node.matches_anchor.mp inside
    rw [run_anchor, here.isAt place, List.nil_append, if_pos holds]
    exact accepts.here here thread.captures
  | backref index => exact plain.elim
  | look negated body => exact plain.elim
  | seq first second ihFirst ihSecond =>
    refine ⟨fun {before text after taken thread next} inside here fresh accepts => ?_⟩
    obtain ⟨front, back, _, _, rfl, rfl, insideFirst, insideSecond⟩ := Node.matches_seq.mp inside
    rw [List.append_assoc] at here
    refine (ihFirst plain.1).succeeds insideFirst here (fresh.sub (List.subset_append_left _ _)) ?_
    intro later there since
    have stillFresh := (fresh.since since (here.position_le there)).sub
      (List.subset_append_right first.numbers second.numbers)
    exact (ihSecond plain.2).succeeds insideSecond there stillFresh (accepts.rest since there)
  | alt first second ihFirst ihSecond =>
    refine ⟨fun {before text after taken thread next} inside here fresh accepts => ?_⟩
    cases inside with
    | left inside =>
      exact succeeds_first ((ihFirst plain.1).succeeds inside here
        (fresh.sub (List.subset_append_left _ _)) accepts)
    | right inside =>
      exact succeeds_second fun captures => (ihSecond plain.2).succeeds inside
        (here.reset captures thread.visits) (fresh.sub (List.subset_append_right _ _)) accepts
  | group index body ih =>
    refine ⟨fun {before text after taken thread next} inside here fresh accepts => ?_⟩
    obtain ⟨_, rfl, insideBody⟩ := Node.matches_group.mp inside
    rw [run_group]
    refine ((ih plain).succeeds insideBody here fresh ?_).mapError _
    intro later there since
    exact accepts _ (there.reset _ later.visits) since
  | loop number lazily body ih =>
    refine ⟨fun {before text after taken thread next} inside here fresh accepts => ?_⟩
    have enough : text.length ≤ thread.entryBound := by
      simp only [Thread.entryBound]
      rw [here.rest, List.length_append]
      omega
    exact (ih plain.2).passes plain.1 inside enough here fresh accepts
  | skip number lazily body ih =>
    refine ⟨fun {before text after taken thread next} inside here fresh accepts => ?_⟩
    cases inside with
    | skipped => exact succeeds_leave number lazily (accepts.here here)
    | once inside =>
      -- A pass over nothing is left out, since its visit would stay at the thread's position.
      by_cases empty : text = []
      · subst empty
        exact succeeds_leave number lazily (accepts.here here)
      · exact succeeds_pass number lazily fun captures => (ih plain.2).entering plain.1 inside empty
          (here.reset captures thread.visits) fresh accepts

/-- A plain pattern accepts exactly the lines that it matches. -/
theorem matchLine?_isSome_iff {node : Node} (plain : node.Plain) (line : Bytes) :
    (node.matchLine? line).isSome ↔ ∃ taken, node.Matches [] line [] taken := by
  constructor
  · intro accepted
    obtain ⟨found, accepted⟩ := Option.isSome_iff_exists.mp accepted
    obtain ⟨taken, inside, -⟩ := matchLine?_sound plain accepted
    exact ⟨taken, inside⟩
  · rintro ⟨taken, inside⟩
    have start : Thread.At { rest := line } [] (line ++ []) :=
      ⟨rfl, (List.append_nil line).symm, rfl⟩
    have fresh : Thread.Fresh { rest := line } node.numbers := fun _ none _ => absurd none
      List.not_mem_nil
    have ends : Accepts { rest := line } ([] ++ line) [] accept := by
      intro later there _
      refine ⟨later.captures, ?_⟩
      simp only [accept]
      rw [there.rest]
      rfl
    obtain ⟨captures, accepted⟩ := (run_complete plain).succeeds inside start fresh ends
    simp only [Node.matchLine?]
    rw [accepted]
    rfl

end Pattern

end CueFront
