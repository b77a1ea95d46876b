import CueFront.Proofs.Pattern.Soundness

/-!
# Captures are pieces of the line

Whatever the pattern, a group captures a piece of the line (`matchLine?_within`).  Back references
and lookahead count too, and so do the captures a failed attempt leaves behind, since another way
goes on with them.  The invariant is about a thread (`Thread.Inside`): its rest is an end of the
line and its captures are pieces.  Each node hands such threads to what follows it, so a match keeps
to the line if what follows does (`run_confined`).
-/

namespace CueFront

namespace Pattern

variable {line text : Bytes} {thread : Thread}

/-! ## Captures -/

/-- Every captured text is a piece of the line. -/
def Captures.Within (line : Bytes) (captures : Captures) : Prop :=
  ∀ i text, captures.get? i = some text → text <:+: line

namespace Captures.Within

variable {captures before : Captures}

theorem nil (line : Bytes) : Within line [] := by
  intro i text found
  cases found

theorem put (within : captures.Within line) (index : Nat) (piece : text <:+: line) :
    (captures.put index text).Within line := by
  intro i other found
  by_cases same : i = index
  · rw [same, get?_put_same] at found
    cases found
    exact piece
  · rw [get?_put_ne captures text same] at found
    exact within i other found

theorem restore (within : captures.Within line) (earlier : before.Within line) (index : Nat) :
    (captures.restore index before).Within line := by
  intro i text found
  by_cases same : i = index
  · rw [same, get?_restore_same] at found
    exact earlier index text found
  · rw [get?_restore_ne captures before same] at found
    exact within i text found

end Captures.Within

/-- The captures of a match, or those left behind. -/
def Outcome.captures : Outcome → Captures
  | .ok captures => captures
  | .error captures => captures

/-! ## Threads -/

/-- The thread stands in the line and has captured pieces of it. -/
structure Thread.Inside (thread : Thread) (line : Bytes) : Prop where
  rest : thread.rest <:+ line
  captures : thread.captures.Within line

/-- What is captured inside the line is a piece of it. -/
def Confined (line : Bytes) (next : Continuation) : Prop :=
  ∀ thread, thread.Inside line → (Outcome.captures (next thread)).Within line

theorem Thread.Inside.fail (inside : thread.Inside line) :
    (Outcome.captures thread.fail).Within line := inside.captures

/-- The text of a back reference is passed over. -/
theorem Thread.Inside.advanceOver {ahead : Thread} (inside : thread.Inside line)
    (advances : thread.advanceOver? text = some ahead) : ahead.Inside line := by
  simp only [Thread.advanceOver?] at advances
  split at advances
  · cases advances
    exact ⟨(List.drop_suffix text.length thread.rest).trans inside.rest, inside.captures⟩
  · cases advances

namespace Confined

variable {first second next pass leave : Continuation}

theorem accept (line : Bytes) : Confined line accept := by
  intro thread inside
  simp only [Pattern.accept]
  split
  · exact inside.captures
  · exact inside.fail

theorem preferring (ofFirst : Confined line first) (ofSecond : Confined line second) :
    Confined line fun thread => preferring thread first second := by
  intro thread inside
  have tried := ofFirst thread inside
  simp only [Pattern.preferring]
  cases outcome : first thread with
  | ok captures =>
    rw [outcome] at tried
    exact tried
  | error captures =>
    rw [outcome] at tried
    exact ofSecond { thread with captures } ⟨inside.rest, tried⟩

theorem entering (ofPass : Confined line pass) (number : Nat) :
    Confined line (entering number pass) := by
  intro thread inside
  rcases entering_cases number pass thread with ⟨visits, enters⟩ | stays
  · rw [enters]
    exact ofPass { thread with visits } ⟨inside.rest, inside.captures⟩
  · rw [stays]
    exact inside.fail

theorem passOrLeave (ofPass : Confined line pass) (ofLeave : Confined line leave) (number : Nat)
    (lazily : Bool) : Confined line (passOrLeave number lazily pass leave) := by
  cases lazily with
  | false => exact (ofPass.entering number).preferring ofLeave
  | true => exact ofLeave.preferring (ofPass.entering number)

theorem passes {body : Thread → Continuation → Outcome}
    (ofBody : ∀ {next}, Confined line next → Confined line fun thread => body thread next)
    (ofLeave : Confined line leave) (number : Nat) (lazily : Bool) (bound : Nat) :
    Confined line (passes number lazily body leave bound) := by
  induction bound with
  | zero => exact ofLeave
  | succ bound ih => exact (ofBody ih).passOrLeave ofLeave number lazily

/-- A group records a piece of what was left of the line when it was entered. -/
theorem closing (confined : Confined line next) (index : Nat) (inside : thread.Inside line) :
    Confined line (closing index thread next) := by
  intro inner here
  have front : thread.rest.take (inner.position - thread.position) <+: thread.rest :=
    List.take_prefix _ thread.rest
  have piece : thread.rest.take (inner.position - thread.position) <:+: line :=
    front.isInfix.trans inside.rest.isInfix
  exact confined _ ⟨here.rest, here.captures.put index piece⟩

/-- A group records a piece of the line: what lies between the places where its body starts and
ends. -/
theorem group {body : Node} {index : Nat}
    (ofBody : ∀ {next}, Confined line next → Confined line fun thread => body.run thread next)
    (confined : Confined line next) :
    Confined line fun thread => (Node.group index body).run thread next := by
  intro thread inside
  have tried : Captures.Within line
      (Outcome.captures (body.run thread (Pattern.closing index thread next))) :=
    ofBody (confined.closing index inside) thread inside
  simp only [run_group]
  cases outcome : body.run thread (Pattern.closing index thread next) with
  | ok captures =>
    rw [outcome] at tried
    exact tried
  | error captures =>
    rw [outcome] at tried
    exact Captures.Within.restore tried inside.captures index

/-- Lookahead starts on its own, from what is left of the line. -/
theorem look {body : Node} {negated : Bool}
    (ofBody : ∀ {next}, Confined line next → Confined line fun thread => body.run thread next)
    (confined : Confined line next) :
    Confined line fun thread => (Node.look negated body).run thread next := by
  intro thread inside
  have ahead : Confined line fun inner => .ok inner.captures := fun inner here => here.captures
  have tried : (Outcome.captures (body.run { rest := thread.rest, captures := thread.captures }
      fun inner => .ok inner.captures)).Within line :=
    ofBody ahead _ ⟨inside.rest, inside.captures⟩
  simp only [Node.run]
  cases outcome : body.run { rest := thread.rest, captures := thread.captures }
      fun inner => .ok inner.captures with
  | ok captures =>
    rw [outcome] at tried
    cases negated with
    | false => exact confined { thread with captures } ⟨inside.rest, tried⟩
    | true => exact tried
  | error captures =>
    cases negated with
    | false => exact inside.fail
    | true => exact confined thread inside

end Confined

/-! ## Matches -/

/-- A node captures pieces of the line if what follows does. -/
theorem run_confined (node : Node) {next : Continuation} (confined : Confined line next) :
    Confined line fun thread => node.run thread next := by
  induction node generalizing next with
  | empty => exact confined
  | one accepts =>
    intro thread inside
    rcases run_one_cases accepts thread next with ⟨b, rest, text, -, advances⟩ | stops
    · simp only [advances]
      have shorter : rest <:+ thread.rest := text ▸ List.suffix_cons b rest
      exact confined _ ⟨shorter.trans inside.rest, inside.captures⟩
    · simp only [stops]
      exact inside.fail
  | anchor place =>
    intro thread inside
    simp only [run_anchor]
    split
    · exact confined thread inside
    · exact inside.fail
  | backref index =>
    intro thread inside
    simp only [Node.run]
    cases advances : (thread.captures.get? index).bind thread.advanceOver? with
    | none => exact inside.fail
    | some ahead =>
      obtain ⟨text, -, advances⟩ := Option.bind_eq_some_iff.mp advances
      exact confined ahead (inside.advanceOver advances)
  | seq first second ihFirst ihSecond => exact ihFirst (ihSecond confined)
  | alt first second ihFirst ihSecond => exact (ihFirst confined).preferring (ihSecond confined)
  | group index body ih => exact .group ih confined
  | look negated body ih => exact .look ih confined
  | loop number lazily body ih =>
    intro thread
    exact Confined.passes ih confined number lazily _ thread
  | skip number lazily body ih => exact (ih confined).passOrLeave confined number lazily

/-- What the groups of a match capture are pieces of the line. -/
theorem matchLine?_within {node : Node} {captures : Captures}
    (accepted : node.matchLine? line = some captures) : captures.Within line := by
  have start : Thread.Inside { rest := line } line := ⟨List.suffix_rfl, .nil line⟩
  have within : (Outcome.captures (node.run { rest := line } accept)).Within line :=
    run_confined node (.accept line) _ start
  simp only [Node.matchLine?] at accepted
  cases outcome : node.run { rest := line } accept with
  | error left =>
    rw [outcome] at accepted
    cases accepted
  | ok found =>
    rw [outcome] at accepted within
    cases accepted
    exact within

end Pattern

end CueFront
