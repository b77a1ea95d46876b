import CueFront.Proofs.Run.Descriptors

/-!
# Wiring

A run makes its pipes one after the other, each for one line between it and its child.  The
child puts its ends of three of them in place of its standard descriptors.  `State.wired` says
which descriptor is meant for which of them, from the moment it is open until the child is
forked, and `wired_step` says where each of them comes from.
-/

namespace CueFront

/-- What a pipe between a run and its child is for. -/
inductive Line where
  /-- The child reads its input there. -/
  | input
  /-- The child writes its output there. -/
  | output
  /-- The child writes its error output there. -/
  | errors
  /-- The child reports there that it could not start. -/
  | report
deriving DecidableEq, Repr

/-- Which end of a line the child has in place of a standard descriptor, and of which. -/
def Line.childEnd? {α : Type} (reading writing : α) : Line → Option (Descriptor × α)
  | .input => some (0, reading)
  | .output => some (1, writing)
  | .errors => some (2, writing)
  | .report => none

namespace Run

namespace State

/-- The line that a run is about to make a pipe for. -/
def line? : State → Option Line
  | .openInput _ => some .input
  | .openOutput _ _ => some .output
  | .openErrors _ _ _ => some .errors
  | .openReport _ _ _ _ => some .report
  | .acting [] after => after.line?
  | _ => none

/-- The descriptors that are meant for the child's standard descriptors. -/
def wired : State → List (Descriptor × Descriptor)
  | .openOutput _ input => [(0, input.reading)]
  | .openErrors _ input output => [(0, input.reading), (1, output.writing)]
  | .openReport _ input output errors | .readStart _ ⟨input, output, errors, _⟩
  | .fork _ ⟨input, output, errors, _⟩ _ =>
    [(0, input.reading), (1, output.writing), (2, errors.writing)]
  | .acting _ after => after.wired
  | _ => []

variable {s t : State} {event : Event}

theorem line?_of_pipe {next : Except Errno (Descriptor × Descriptor) → State}
    (call : s.call? = some (.pipe next)) : ∃ line, s.line? = some line := by
  induction s with
  | openInput | openOutput | openErrors | openReport => exact ⟨_, rfl⟩
  | acting actions after ih =>
    cases actions with
    | nil => exact ih call
    | cons action actions => cases call
  | _ => cases call

theorem wired_of_fork {plan : ChildPlan} {next : Except Errno Pid → State}
    (call : s.call? = some (.fork plan next)) : s.wired = plan.redirects := by
  induction s with
  | fork job ends started =>
    cases call
    rfl
  | openInput job =>
    simp only [call?] at call
    split at call <;> cases call
  | acting actions after ih =>
    cases actions with
    | nil => exact ih call
    | cons action actions => cases call
  | _ => cases call

/-- What is wired is held. -/
theorem holds_of_wired {redirect : Descriptor × Descriptor} (wired : redirect ∈ s.wired) :
    redirect.2 ∈ s.holds := by
  induction s with
  | openOutput | openErrors | openReport | readStart | fork =>
    simp only [State.wired, List.mem_cons, List.not_mem_nil, or_false] at wired
    obtain rfl | rfl | rfl | rfl := wired <;>
      simp [State.holds, InputEnds.all, PipeEnds.all, Plumbing.all]
  | acting actions after ih => exact List.mem_append_right _ (ih wired)
  | _ => cases wired

/-- Only a run that has not forked its child has anything wired. -/
theorem stage_of_wired {redirect : Descriptor × Descriptor} (wired : redirect ∈ s.wired) :
    ∃ job now, s.stage = .before job now := by
  induction s with
  | openOutput | openErrors | openReport | readStart | fork => exact ⟨_, _, rfl⟩
  | acting actions after ih => exact ih wired
  | _ => cases wired

end State

/-- A run that has forked its child stays so. -/
theorem before_of_step {stage : Stage} {event : Event} {job : Job} {now : Int}
    (step : Stage.Step stage event (.before job now)) : ∃ now, stage = .before job now := by
  cases step <;> exact ⟨_, rfl⟩

/-- An event opens what is meant for a standard descriptor of the child. -/
def Wires (line : Option Line) : Event → Descriptor × Descriptor → Prop
  | .openNull (.ok descriptor), redirect => redirect = (0, descriptor)
  | .pipe (.ok ends), redirect => line.bind (·.childEnd? ends.1 ends.2) = some redirect
  | _, _ => False

theorem wired_withPipe {opened : List Descriptor} {next : PipeEnds → State}
    {answer : Except Errno (Descriptor × Descriptor)} {redirect : Descriptor × Descriptor}
    (wired : redirect ∈ (withPipe opened next answer).wired) :
    ∃ ends, answer = .ok ends ∧ redirect ∈ (next ⟨ends.1, ends.2⟩).wired := by
  cases answer with
  | ok ends => exact ⟨ends, rfl, wired⟩
  | error errno => cases wired

/-- What is wired was wired before, or is opened by the event. -/
theorem wired_step {s t : State} {event : Event} (ordered : s.Ordered)
    (step : s.next? event = some t) {redirect : Descriptor × Descriptor}
    (wired : redirect ∈ t.wired) : redirect ∈ s.wired ∨ Wires s.line? event redirect := by
  have unforked : ∃ job now, s.stage = .before job now := by
    obtain ⟨job, now, before⟩ := State.stage_of_wired wired
    have stages := (next?_stage ordered step).2
    rw [before] at stages
    obtain ⟨now, before⟩ := before_of_step stages
    exact ⟨job, now, before⟩
  induction s with
  | fresh job =>
    obtain ⟨raised, rfl, rfl⟩ := Call.follow_token.mp step
    cases raised <;> cases wired
  | openInput job =>
    simp only [State.next?, State.call?, Option.bind_some] at step
    split at step
    · obtain ⟨answer, rfl, rfl⟩ := Call.follow_pipe.mp step
      obtain ⟨ends, rfl, later⟩ := wired_withPipe wired
      rw [List.mem_singleton.mp later]
      exact .inr rfl
    · obtain ⟨opened, rfl, rfl⟩ := Call.follow_openNull.mp step
      cases opened with
      | ok descriptor => exact .inr (List.mem_singleton.mp wired)
      | error errno => cases wired
  | openOutput job input =>
    obtain ⟨answer, rfl, rfl⟩ := Call.follow_pipe.mp step
    obtain ⟨ends, rfl, later⟩ := wired_withPipe wired
    simp only [State.wired, List.mem_cons, List.not_mem_nil, or_false] at later ⊢
    rcases later with old | rfl
    · exact .inl old
    · exact .inr rfl
  | openErrors job input output =>
    obtain ⟨answer, rfl, rfl⟩ := Call.follow_pipe.mp step
    obtain ⟨ends, rfl, later⟩ := wired_withPipe wired
    simp only [State.wired, List.mem_cons, List.not_mem_nil, or_false] at later ⊢
    rcases later with old | old | rfl
    · exact .inl (.inl old)
    · exact .inl (.inr old)
    · exact .inr rfl
  | openReport job input output errors =>
    obtain ⟨answer, rfl, rfl⟩ := Call.follow_pipe.mp step
    obtain ⟨ends, rfl, later⟩ := wired_withPipe wired
    exact .inl later
  | readStart job ends =>
    obtain ⟨now, rfl, rfl⟩ := Call.follow_clock.mp step
    exact .inl wired
  | fork job ends started =>
    obtain ⟨child, rfl, rfl⟩ := Call.follow_fork.mp step
    cases child <;> cases wired
  | acting actions after ih =>
    cases actions with
    | nil => exact ih ordered step unforked
    | cons action actions =>
      obtain ⟨rfl, rfl⟩ := Call.follow_act.mp step
      exact .inl wired
  | _ =>
    obtain ⟨job, now, before⟩ := unforked
    cases before

theorem closed_or_opened (event : Event) : event.closed = [] ∨ event.opened = [] := by
  cases event with
  | act action => exact .inr rfl
  | _ => exact .inl rfl

/-- What becomes of the descriptors of a run whose event opens none that it holds. -/
structure Moves (s : State) (event : Event) (t : State) : Prop where
  /-- It holds no descriptor twice. -/
  single : t.holds.Nodup
  /-- What it closes it held. -/
  closes : ∀ descriptor ∈ event.closed, descriptor ∈ s.holds
  /-- What it holds it has opened or not closed. -/
  origin : ∀ descriptor ∈ t.holds,
    descriptor ∉ event.closed ∧ (descriptor ∈ event.opened ∨ descriptor ∈ s.holds)
  /-- What it does not close it goes on holding. -/
  keeps : ∀ descriptor ∉ event.closed, descriptor ∈ event.opened ∨ descriptor ∈ s.holds →
    descriptor ∈ t.holds

theorem moves_of_step {s t : State} {event : Event} (ordered : s.Ordered)
    (step : s.next? event = some t) (single : s.holds.Nodup) (distinct : event.opened.Nodup)
    (free : ∀ descriptor ∈ s.holds, descriptor ∉ event.opened) : Moves s event t := by
  have balanced := balance_step ordered step
  have once : (event.closed ++ t.holds).Nodup := by
    refine balanced.nodup_iff.mpr (List.nodup_append.mpr ⟨distinct, single, ?_⟩)
    rintro descriptor opens _ held rfl
    exact free descriptor held opens
  obtain ⟨-, unique, disjoint⟩ := List.nodup_append.mp once
  refine ⟨unique, ?_, ?_, ?_⟩
  · intro descriptor closed
    rcases List.mem_append.mp (balanced.subset (List.mem_append_left _ closed)) with opens | held
    · rcases closed_or_opened event with none | none
      · simp [none] at closed
      · simp [none] at opens
    · exact held
  · intro descriptor held
    exact ⟨fun closed => disjoint _ closed _ held rfl,
      List.mem_append.mp (balanced.subset (List.mem_append_right _ held))⟩
  · intro descriptor unclosed held
    exact (List.mem_append.mp (balanced.symm.subset (List.mem_append.mpr held))).resolve_left
      unclosed

/-- A run reads and writes only what it holds. -/
theorem holds_of_read {s : State} {descriptor : Descriptor} {count : Nat}
    {next : Except Errno Bytes → State} (ordered : s.Ordered)
    (call : s.call? = some (.read descriptor count next)) : descriptor ∈ s.holds := by
  induction s with
  | awaitExec live report =>
    cases call
    exact List.mem_cons_self
  | drainOutput live output =>
    cases call
    change descriptor ∈ live.openDescriptors
    simp [Live.openDescriptors, show live.output = _ from ordered]
  | drainErrors live errors =>
    cases call
    change descriptor ∈ live.openDescriptors
    simp [Live.openDescriptors, show live.errors = _ from ordered]
  | openInput job =>
    simp only [State.call?] at call
    split at call <;> cases call
  | acting actions after ih =>
    cases actions with
    | nil => exact ih ordered call
    | cons action actions => cases call
  | _ => cases call

theorem holds_of_write {s : State} {descriptor : Descriptor} {bytes : Bytes}
    {next : Except Errno Nat → State} (ordered : s.Ordered)
    (call : s.call? = some (.write descriptor bytes next)) : descriptor ∈ s.holds := by
  induction s with
  | write live input =>
    cases call
    change descriptor ∈ live.openDescriptors
    simp [Live.openDescriptors, ordered.2]
  | openInput job =>
    simp only [State.call?] at call
    split at call <;> cases call
  | acting actions after ih =>
    cases actions with
    | nil => exact ih ordered call
    | cons action actions => cases call
  | _ => cases call

end Run

end CueFront
