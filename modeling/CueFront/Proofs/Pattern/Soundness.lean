import CueFront.Proofs.Pattern.Captures

/-!
# What the matcher finds is a match

`Node.run` hands the thread behind a match to a continuation, and tries another way when the
continuation fails.  A failed way may leave captures behind, so two facts go together.

* `run_quiet`: a failure leaves the captures as they were, apart from groups that are still open.
  A closed group is put back when the way through it fails.
* `run_sound`: a success comes from a text that the pattern matches, and the continuation got
  the captures of that match, again apart from groups that are still open.

Both are proved by induction on the pattern for any list of open groups, since the continuation
inside a group records its text and so is not quiet about it.
-/

namespace CueFront

namespace Pattern

/-! ## Ways -/

theorem preferring_eq_error {thread : Thread} {first second : Continuation} {left : Captures} :
    preferring thread first second = .error left ↔
      ∃ captures, first thread = .error captures ∧
        second { thread with captures } = .error left := by
  simp only [preferring]
  cases first thread with
  | ok captures => simp
  | error captures => simp

theorem preferring_eq_ok {thread : Thread} {first second : Continuation} {found : Captures} :
    preferring thread first second = .ok found ↔
      first thread = .ok found ∨
        ∃ captures, first thread = .error captures ∧
          second { thread with captures } = .ok found := by
  simp only [preferring]
  cases first thread with
  | ok captures => simp
  | error captures => simp

/-- One more pass, if the place may be entered. -/
def entering (number : Nat) (pass : Continuation) : Continuation := fun thread =>
  match thread.enter? number with
  | some thread => pass thread
  | none => thread.fail

theorem passOrLeave_eq (number : Nat) (lazily : Bool) (pass leave : Continuation)
    (thread : Thread) :
    passOrLeave number lazily pass leave thread =
      if lazily then preferring thread leave (entering number pass)
      else preferring thread (entering number pass) leave := rfl

/-- Entering a place changes the visits only. -/
theorem Thread.enter?_eq_some {thread entered : Thread} {number : Nat}
    (enters : thread.enter? number = some entered) :
    ∃ visits, entered = { thread with visits } := by
  simp only [enter?] at enters
  split at enters
  · split at enters
    · exact ⟨_, (Option.some.inj enters).symm⟩
    · split at enters
      · exact ⟨_, (Option.some.inj enters).symm⟩
      · cases enters
  · exact ⟨_, (Option.some.inj enters).symm⟩

/-- A pass is entered with a note of the visit, or it fails at once. -/
theorem entering_cases (number : Nat) (pass : Continuation) (thread : Thread) :
    (∃ visits, entering number pass thread = pass { thread with visits }) ∨
      entering number pass thread = thread.fail := by
  simp only [entering]
  cases enters : thread.enter? number with
  | none => exact .inr rfl
  | some entered =>
    obtain ⟨visits, rfl⟩ := Thread.enter?_eq_some enters
    exact .inl ⟨visits, rfl⟩

theorem run_one_of_has {accepts : ByteClass} {thread : Thread} {b : UInt8} {rest : Bytes}
    (text : thread.rest = b :: rest) (accepted : accepts.has b = true) (next : Continuation) :
    (Node.one accepts).run thread next =
      next { thread with previous := some b, rest, position := thread.position + 1 } := by
  simp [Node.run, Thread.advance?, text, accepted]

/-- A class takes the next byte or fails. -/
theorem run_one_cases (accepts : ByteClass) (thread : Thread) (next : Continuation) :
    (∃ b rest, thread.rest = b :: rest ∧ accepts.has b = true ∧
      (Node.one accepts).run thread next =
        next { thread with previous := some b, rest, position := thread.position + 1 }) ∨
      (Node.one accepts).run thread next = thread.fail := by
  cases text : thread.rest with
  | nil => exact .inr (by simp [Node.run, Thread.advance?, text])
  | cons b rest =>
    cases accepted : accepts.has b with
    | false => exact .inr (by simp [Node.run, Thread.advance?, text, accepted])
    | true => exact .inl ⟨b, rest, rfl, accepted, run_one_of_has text accepted next⟩

theorem run_anchor (place : Anchor) (thread : Thread) (next : Continuation) :
    (Node.anchor place).run thread next =
      if thread.isAt place then next thread else thread.fail := rfl

/-- What follows a group that was entered with `thread`: the text of the group is recorded. -/
def closing (index : Nat) (thread : Thread) (next : Continuation) : Continuation := fun inner =>
  next { inner with captures :=
    inner.captures.put index (thread.rest.take (inner.position - thread.position)) }

theorem run_group (index : Nat) (body : Node) (thread : Thread) (next : Continuation) :
    (Node.group index body).run thread next =
      (body.run thread (closing index thread next)).mapError (·.restore index thread.captures) :=
  rfl

/-! ## Failures -/

/-- A failure leaves the captures as they were, apart from open groups. -/
def Quiet (opened : List Nat) (next : Continuation) : Prop :=
  ∀ thread left, next thread = .error left → Captures.Agree opened left thread.captures

theorem agree_of_fail {opened : List Nat} {thread : Thread} {left : Captures}
    (failed : thread.fail = .error left) : Captures.Agree opened left thread.captures := by
  cases failed
  exact .refl opened thread.captures

/-- Accepting leaves the captures as they were if it fails. -/
theorem quiet_accept (opened : List Nat) : Quiet opened accept := by
  intro thread left failed
  simp only [accept] at failed
  split at failed
  · cases failed
  · exact agree_of_fail failed

theorem Quiet.preferring {opened : List Nat} {first second : Continuation}
    (ofFirst : Quiet opened first) (ofSecond : Quiet opened second) :
    Quiet opened fun thread => preferring thread first second := by
  intro thread left failed
  obtain ⟨captures, way, other⟩ := preferring_eq_error.mp failed
  exact (ofSecond _ left other).trans (ofFirst thread captures way)

theorem Quiet.entering {opened : List Nat} {pass : Continuation} (ofPass : Quiet opened pass)
    (number : Nat) : Quiet opened (entering number pass) := by
  intro thread left failed
  rcases entering_cases number pass thread with ⟨visits, enters⟩ | stays
  · rw [enters] at failed
    exact ofPass { thread with visits } left failed
  · rw [stays] at failed
    exact agree_of_fail failed

theorem Quiet.passOrLeave {opened : List Nat} {pass leave : Continuation}
    (ofPass : Quiet opened pass) (ofLeave : Quiet opened leave) (number : Nat) (lazily : Bool) :
    Quiet opened (passOrLeave number lazily pass leave) := by
  cases lazily with
  | false => exact (ofPass.entering number).preferring ofLeave
  | true => exact ofLeave.preferring (ofPass.entering number)

theorem Quiet.passes {opened : List Nat} {body : Thread → Continuation → Outcome}
    {leave : Continuation}
    (ofBody : ∀ {next}, Quiet opened next → Quiet opened fun thread => body thread next)
    (ofLeave : Quiet opened leave) (number : Nat) (lazily : Bool) (bound : Nat) :
    Quiet opened (passes number lazily body leave bound) := by
  induction bound with
  | zero => exact ofLeave
  | succ bound ih => exact (ofBody ih).passOrLeave ofLeave number lazily

/-- Recording the text of a group is quiet while the group counts as open. -/
theorem Quiet.closing {opened : List Nat} {next : Continuation} (quiet : Quiet opened next)
    (index : Nat) (thread : Thread) : Quiet (index :: opened) (closing index thread next) := by
  intro inner left failed
  have later := quiet _ left failed
  exact (later.weaken index).trans ((Captures.Agree.refl opened inner.captures).put_left _)

/-- What a group records is put back when the way through the group fails. -/
theorem Quiet.group {opened : List Nat} {body : Node} {next : Continuation} {index : Nat}
    (ofBody : ∀ {next}, Quiet (index :: opened) next →
      Quiet (index :: opened) fun thread => body.run thread next)
    (quiet : Quiet opened next) :
    Quiet opened fun thread => (Node.group index body).run thread next := by
  intro thread left failed
  have failed := (run_group index body thread next).symm.trans failed
  cases outcome : body.run thread (Pattern.closing index thread next) with
  | ok captures =>
    rw [outcome] at failed
    cases failed
  | error captures =>
    rw [outcome] at failed
    cases failed
    exact (ofBody (quiet.closing index thread) thread captures outcome).restore_close

/-- A failure of a plain pattern leaves the captures as they were, apart from open groups, if that
is so for what follows. -/
theorem run_quiet {node : Node} (plain : node.Plain) {opened : List Nat} {next : Continuation}
    (quiet : Quiet opened next) : Quiet opened fun thread => node.run thread next := by
  induction node generalizing opened next with
  | empty => exact quiet
  | one accepts =>
    intro thread left failed
    rcases run_one_cases accepts thread next with ⟨b, rest, -, -, advances⟩ | stops
    · have later := quiet _ left (advances.symm.trans failed)
      exact later
    · exact agree_of_fail (stops.symm.trans failed)
  | anchor place =>
    intro thread left failed
    have failed := (run_anchor place thread next).symm.trans failed
    split at failed
    · exact quiet thread left failed
    · exact agree_of_fail failed
  | backref index => exact plain.elim
  | look negated body => exact plain.elim
  | seq first second ihFirst ihSecond => exact ihFirst plain.1 (ihSecond plain.2 quiet)
  | alt first second ihFirst ihSecond =>
    exact (ihFirst plain.1 quiet).preferring (ihSecond plain.2 quiet)
  | group index body ih => exact .group (fun quiet => ih plain quiet) quiet
  | loop number lazily body ih =>
    intro thread
    exact Quiet.passes (fun quiet => ih plain.2 quiet) quiet number lazily _ thread
  | skip number lazily body ih =>
    exact (ih plain.2 quiet).passOrLeave quiet number lazily

/-! ## Successes -/

/-- The thread stands between two texts. -/
structure Thread.At (thread : Thread) (before after : Bytes) : Prop where
  previous : thread.previous = before.getLast?
  rest : thread.rest = after
  position : thread.position = before.length

namespace Thread.At

variable {thread : Thread} {before after : Bytes}

/-- A thread sees the texts on both sides of its place. -/
theorem isAt (here : thread.At before after) (place : Anchor) :
    thread.isAt place = place.holds before after := by
  cases place with
  | lineStart =>
    simp only [Thread.isAt, Anchor.holds]
    rw [here.previous]
    cases before with
    | nil => rfl
    | cons b before => simp
  | lineEnd =>
    simp only [Thread.isAt, Anchor.holds]
    rw [here.rest]
  | wordEdge negated =>
    simp only [Thread.isAt, Anchor.holds]
    rw [here.previous, here.rest]

/-- A thread that takes a byte stands behind it. -/
theorem advance {b : UInt8} {rest : Bytes} (here : thread.At before (b :: rest)) :
    Thread.At { thread with previous := some b, rest, position := thread.position + 1 }
      (before ++ [b]) rest where
  previous := by rw [List.getLast?_concat]
  rest := rfl
  position := by rw [List.length_append, here.position]; rfl

/-- Neither captures nor visits say where a thread stands. -/
theorem reset (here : thread.At before after) (captures : Captures) (visits : List Visit) :
    Thread.At { thread with captures, visits } before after :=
  ⟨here.previous, here.rest, here.position⟩

end Thread.At

/-- What follows was reached behind a text of the language, with its captures recorded, apart from
open groups. -/
def Finds (language : Bytes → Bytes → Bytes → Taken → Prop) (opened : List Nat)
    (captures : Captures) (before rest : Bytes) (next : Continuation) (found : Captures) : Prop :=
  ∃ text after taken inner, rest = text ++ after ∧ language before text after taken ∧
    inner.At (before ++ text) after ∧
    Captures.Agree opened inner.captures (captures.record taken) ∧ next inner = .ok found

namespace Finds

variable {language language₁ language₂ : Bytes → Bytes → Bytes → Taken → Prop}
  {opened : List Nat} {captures captures' found : Captures} {before rest : Bytes}
  {next middle : Continuation} {thread : Thread}

/-- Nothing is consumed. -/
theorem stay (here : thread.At before rest) (empty : language before [] rest [])
    (succeeds : next thread = .ok found) :
    Finds language opened thread.captures before rest next found :=
  ⟨[], rest, [], thread, rfl, empty, by rwa [List.append_nil], .refl opened _, succeeds⟩

theorem of_agree (agree : Captures.Agree opened captures' captures)
    (finds : Finds language opened captures' before rest next found) :
    Finds language opened captures before rest next found := by
  obtain ⟨text, after, taken, inner, split, inside, here, same, succeeds⟩ := finds
  exact ⟨text, after, taken, inner, split, inside, here, same.trans (agree.record taken), succeeds⟩

theorem mono (finds : Finds language₁ opened captures before rest next found)
    (sub : ∀ {before text after taken}, language₁ before text after taken →
      language before text after taken) :
    Finds language opened captures before rest next found := by
  obtain ⟨text, after, taken, inner, split, inside, here, same, succeeds⟩ := finds
  exact ⟨text, after, taken, inner, split, sub inside, here, same, succeeds⟩

/-- One text behind another. -/
theorem append (first : Finds language₁ opened captures before rest middle found)
    (second : ∀ {inner before rest}, inner.At before rest → middle inner = .ok found →
      Finds language₂ opened inner.captures before rest next found)
    (join : ∀ {before text text' after taken taken'},
      language₁ before text (text' ++ after) taken → language₂ (before ++ text) text' after taken' →
      language before (text ++ text') after (taken ++ taken')) :
    Finds language opened captures before rest next found := by
  obtain ⟨text, middleRest, taken, inner, rfl, inside, here, same, goesOn⟩ := first
  obtain ⟨text', after, taken', inner', rfl, inside', here', same', succeeds⟩ := second here goesOn
  refine ⟨text ++ text', after, taken ++ taken', inner', ?_, join inside inside', ?_, ?_, succeeds⟩
  · rw [List.append_assoc]
  · rwa [← List.append_assoc]
  · rw [Captures.record_append]
    exact same'.trans (same.record taken')

end Finds

/-- A success of a pass or of what follows, behind a failure that changed no closed group. -/
theorem passOrLeave_eq_ok {opened : List Nat} {pass leave : Continuation} {number : Nat}
    {lazily : Bool} {thread : Thread} {found : Captures} (ofPass : Quiet opened pass)
    (ofLeave : Quiet opened leave)
    (succeeds : passOrLeave number lazily pass leave thread = .ok found) :
    ∃ captures, Captures.Agree opened captures thread.captures ∧
      ((∃ visits, pass { thread with captures, visits } = .ok found) ∨
        leave { thread with captures } = .ok found) := by
  have passes : ∀ {thread : Thread}, entering number pass thread = .ok found →
      ∃ visits, pass { thread with visits } = .ok found := by
    intro thread succeeds
    rcases entering_cases number pass thread with ⟨visits, enters⟩ | stays
    · exact ⟨visits, enters.symm.trans succeeds⟩
    · cases stays.symm.trans succeeds
  rw [passOrLeave_eq] at succeeds
  cases lazily with
  | false =>
    rcases preferring_eq_ok.mp succeeds with again | ⟨captures, failed, leaves⟩
    · exact ⟨thread.captures, .refl opened _, .inl (passes again)⟩
    · exact ⟨captures, ofPass.entering number thread captures failed, .inr leaves⟩
  | true =>
    rcases preferring_eq_ok.mp succeeds with leaves | ⟨captures, failed, again⟩
    · exact ⟨thread.captures, .refl opened _, .inr leaves⟩
    · exact ⟨captures, ofLeave thread captures failed, .inl (passes again)⟩

/-- Passes through a body find what a loop around the body matches.  Running out of the bound is
leaving the loop, which is always a match. -/
theorem passes_sound {number : Nat} {lazily : Bool} {body : Node} {opened : List Nat}
    (ofBody : ∀ {next}, Quiet opened next → Quiet opened fun thread => body.run thread next)
    (sound : ∀ {next thread before rest found}, Quiet opened next → thread.At before rest →
      body.run thread next = .ok found →
      Finds body.Matches opened thread.captures before rest next found)
    {next : Continuation} (quiet : Quiet opened next) (bound : Nat) {thread : Thread}
    {before rest : Bytes} {found : Captures} (here : thread.At before rest)
    (succeeds : passes number lazily body.run next bound thread = .ok found) :
    Finds (Node.loop number lazily body).Matches opened thread.captures before rest next found := by
  induction bound generalizing thread before rest with
  | zero => exact .stay here .done succeeds
  | succ bound ih =>
    have later := quiet.passes ofBody number lazily bound
    obtain ⟨captures, same, ⟨visits, again⟩ | leaves⟩ :=
      passOrLeave_eq_ok (ofBody later) quiet succeeds
    · have first := sound later (here.reset captures visits) again
      exact (first.append ih .pass).of_agree same
    · have here := here.reset captures thread.visits
      exact (Finds.stay here .done leaves).of_agree same

/-- A plain pattern finds what it matches. -/
theorem run_sound {node : Node} (plain : node.Plain) {opened : List Nat} {next : Continuation}
    (quiet : Quiet opened next) {thread : Thread} {before rest : Bytes} {found : Captures}
    (here : thread.At before rest) (succeeds : node.run thread next = .ok found) :
    Finds node.Matches opened thread.captures before rest next found := by
  induction node generalizing opened next thread before rest found with
  | empty => exact .stay here .empty succeeds
  | one accepts =>
    rcases run_one_cases accepts thread next with ⟨b, rest', text, accepted, advances⟩ | stops
    · obtain rfl : rest = b :: rest' := here.rest.symm.trans text
      exact ⟨[b], rest', [], _, rfl, .one accepted, here.advance, .refl opened _,
        advances.symm.trans succeeds⟩
    · cases stops.symm.trans succeeds
  | anchor place =>
    rw [run_anchor] at succeeds
    split at succeeds
    · next holds => exact .stay here (.anchor ((here.isAt place).symm.trans holds)) succeeds
    · cases succeeds
  | backref index => exact plain.elim
  | look negated body => exact plain.elim
  | seq first second ihFirst ihSecond =>
    have found₁ := ihFirst plain.1 (run_quiet plain.2 quiet) here succeeds
    exact found₁.append (fun here goesOn => ihSecond plain.2 quiet here goesOn) .seq
  | alt first second ihFirst ihSecond =>
    rcases preferring_eq_ok.mp succeeds with way | ⟨captures, failed, way⟩
    · exact (ihFirst plain.1 quiet here way).mono .left
    · have same := run_quiet plain.1 quiet thread captures failed
      have here := here.reset captures thread.visits
      exact ((ihSecond plain.2 quiet here way).mono .right).of_agree same
  | group index body ih =>
    rw [run_group] at succeeds
    cases outcome : body.run thread (closing index thread next) with
    | error captures =>
      rw [outcome] at succeeds
      cases succeeds
    | ok captures =>
      rw [outcome] at succeeds
      cases succeeds
      -- The body knows nothing of the group's text before `closing` records it.
      obtain ⟨text, after, taken, inner, rfl, inside, there, same, goesOn⟩ :=
        ih plain (quiet.closing index thread) here outcome
      have captured : thread.rest.take (inner.position - thread.position) = text := by
        rw [here.rest, there.position, here.position, List.length_append, Nat.add_sub_cancel_left,
          List.take_left]
      simp only [closing] at goesOn
      rw [captured] at goesOn
      refine ⟨text, after, taken ++ [(index, text)],
        { inner with captures := inner.captures.put index text }, rfl, .group inside,
        ⟨there.previous, there.rest, there.position⟩, ?_, goesOn⟩
      rw [Captures.record_append]
      exact same.put_close text
  | loop number lazily body ih =>
    exact passes_sound (run_quiet plain.2) (fun quiet here => ih plain.2 quiet here) quiet _ here
      succeeds
  | skip number lazily body ih =>
    obtain ⟨captures, same, ⟨visits, again⟩ | leaves⟩ :=
      passOrLeave_eq_ok (run_quiet plain.2 quiet) quiet succeeds
    · have here := here.reset captures visits
      exact ((ih plain.2 quiet here again).mono .once).of_agree same
    · have here := here.reset captures thread.visits
      exact (Finds.stay here .skipped leaves).of_agree same

/-- A line that a plain pattern accepts is one that it matches, and the groups captured what they
did in that match. -/
theorem matchLine?_sound {node : Node} (plain : node.Plain) {line : Bytes} {found : Captures}
    (accepted : node.matchLine? line = some found) :
    ∃ taken, node.Matches [] line [] taken ∧
      ∀ i, found.get? i = (Captures.record [] taken).get? i := by
  simp only [Node.matchLine?] at accepted
  cases outcome : node.run { rest := line } accept with
  | error captures =>
    rw [outcome] at accepted
    cases accepted
  | ok captures =>
    rw [outcome] at accepted
    cases accepted
    have start : Thread.At { rest := line } [] line := ⟨rfl, rfl, rfl⟩
    obtain ⟨text, after, taken, inner, rfl, inside, here, same, ends⟩ :=
      run_sound plain (quiet_accept []) start outcome
    simp only [accept] at ends
    split at ends
    · next atEnd =>
      have ended : after = [] := here.rest.symm.trans (List.isEmpty_iff.mp atEnd)
      cases ends
      rw [ended, List.append_nil]
      exact ⟨taken, ended ▸ inside, fun i => same i List.not_mem_nil⟩
    · cases ends

end Pattern

end CueFront
