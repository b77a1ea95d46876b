import CueFront.Proofs.Run.Stage

/-!
# Launches

Up to the fork a run goes straight ahead.  It looks at the token, makes its descriptors, reads
the clock and forks; where an answer is not to its liking it gives up, and then there is no
fork.  So the events up to the fork are known from their answers.  A `Launch` holds those, and
`launch_of_forks` cuts the trace of a run at its fork.

There is one fork at most (`forks_once`), and whatever concerns the child comes after it
(`forks_of_live`).  `Launch.LeadsTo` is what every later stage keeps of the launch.
-/

namespace CueFront

namespace Run

/-- A child was made. -/
def Forks (trace : List Event) : Prop := ∃ plan pid, .fork plan (.ok pid) ∈ trace

theorem Forks.append {trace : List Event} (forks : Forks trace) (later : List Event) :
    Forks (trace ++ later) := by
  obtain ⟨plan, pid, forked⟩ := forks
  exact ⟨plan, pid, List.mem_append_left _ forked⟩

theorem not_forks_nil : ¬ Forks [] := by
  rintro ⟨plan, pid, forked⟩
  cases forked

/-- The event that made the descriptors of the input. -/
def InputEnds.made (input : InputEnds) : Event :=
  match input.writing with
  | some writing => .pipe (.ok (input.reading, writing))
  | none => .openNull (.ok input.reading)

/-- The event that made a pipe. -/
def PipeEnds.made (ends : PipeEnds) : Event := .pipe (.ok (ends.reading, ends.writing))

/-- What is known of a run when its child is forked. -/
structure Launch (job : Job) where
  /-- Its descriptors. -/
  ends : Plumbing
  /-- What the clock said. -/
  started : Int
  /-- The child. -/
  pid : Pid
  /-- The input can be written if there is any. -/
  writable : ends.input.writing.isSome = job.call.input.isSome

namespace Launch

variable {job : Job}

/-- The events up to the fork. -/
def events (launch : Launch job) : List Event :=
  [.token false, launch.ends.input.made, launch.ends.output.made, launch.ends.errors.made,
    launch.ends.report.made, .clock launch.started,
    .fork (launch.ends.childPlan job) (.ok launch.pid)]

/-- The run right after the fork. -/
def live (launch : Launch job) : Live := launch.ends.live job launch.started launch.pid

/-- The state right after the fork. -/
def state (launch : Launch job) : State :=
  .acting (.setGroup launch.pid :: launch.ends.childEnds.map .close)
    (.awaitExec launch.live launch.ends.report.reading)

theorem ordered_state (launch : Launch job) : launch.state.Ordered := trivial

theorem replay_events (launch : Launch job) :
    (State.fresh job).replay launch.events = some launch.state := by
  obtain ⟨⟨⟨reading, writing⟩, output, errors, report⟩, started, pid, writable⟩ := launch
  have opens : (State.openInput job).next? (InputEnds.made ⟨reading, writing⟩) =
      some (.openOutput job ⟨reading, writing⟩) := by
    simp only [State.next?, State.call?]
    cases given : job.call.input with
    | some text =>
      cases writing with
      | some writing => rfl
      | none => simp [given] at writable
    | none =>
      cases writing with
      | some writing => simp [given] at writable
      | none => rfl
  refine State.replay_cons.mpr ⟨_, rfl, State.replay_cons.mpr ⟨_, opens, ?_⟩⟩
  simp [State.replay, State.next?, State.call?, Call.follow, PipeEnds.made, withPipe, state, live]

theorem replay_append (launch : Launch job) (rest : List Event) :
    (State.fresh job).replay (launch.events ++ rest) = launch.state.replay rest := by
  rw [State.replay_append, launch.replay_events, Option.bind_some]

end Launch

/-! ## One fork -/

variable {job : Job} {trace : List Event} {s t : State}

/-- Only a run that has no child yet makes one. -/
theorem Stage.Step.before_of_fork {stage next : Stage} {plan : ChildPlan}
    {child : Except Errno Pid} (step : Stage.Step stage (.fork plan child) next) :
    ∃ job now, stage = .before job now := by
  cases step with
  | prepare => exact ⟨_, _, rfl⟩
  | giveUp => exact ⟨_, _, rfl⟩
  | fork => exact ⟨_, _, rfl⟩

/-- The child is forked, or the run is over. -/
def Stage.Past : Stage → Prop
  | .before _ _ => False
  | _ => True

theorem Stage.Step.past {stage next : Stage} {event : Event} (step : Stage.Step stage event next)
    (past : stage.Past) : next.Past := by
  cases step with
  | act => exact past
  | prepare | readStart => exact absurd past id
  | _ => trivial

/-- A run that has a child, or is over, makes no child. -/
theorem not_fork_of_past (ordered : s.Ordered) (past : s.stage.Past)
    (run : s.replay trace = some t) (plan : ChildPlan) (child : Except Errno Pid) :
    .fork plan child ∉ trace := by
  have both := stage_induction_from (P := fun trace stage =>
    .fork plan child ∉ trace ∧ stage.Past) ordered ⟨List.not_mem_nil, past⟩ ?_ run
  · exact both.1
  · intro earlier stage event next before step
    refine ⟨fun forked => ?_, step.past before.2⟩
    rcases List.mem_append.mp forked with earlier | last
    · exact before.1 earlier
    · cases List.mem_singleton.mp last
      obtain ⟨job, now, rfl⟩ := step.before_of_fork
      exact before.2

/-- No run forks once it is past its fork. -/
theorem not_forks_of_past (ordered : s.Ordered) (past : s.stage.Past)
    (run : s.replay trace = some t) : ¬ Forks trace := by
  rintro ⟨plan, pid, forked⟩
  exact not_fork_of_past ordered past run plan (.ok pid) forked

theorem not_forks_of_abandon {opened : List Descriptor} {error : RunError}
    (run : (abandon opened error).replay trace = some t) : ¬ Forks trace := by
  have ordered : (abandon opened error).Ordered := trivial
  exact not_forks_of_past ordered trivial run

/-- A run that has a child has forked. -/
theorem forks_of_live {live : Live} (run : (State.fresh job).replay trace = some s)
    (alive : s.stage.live? = some live) : Forks trace := by
  have known := stage_induction (P := fun trace stage => stage.live?.isSome → Forks trace)
    (fun there => by cases there) ?_ run
  · exact known (Option.isSome_of_eq_some alive)
  · intro earlier stage event next before step there
    cases step with
    | act => exact (before there).append _
    | fork job now ends pid =>
      exact ⟨_, pid, List.mem_append_right _ (List.mem_singleton.mpr rfl)⟩
    | prepare | readStart | cancelledBeforeStart | giveUp | reapRefused | finish => cases there
    | _ => exact (before rfl).append _

/-!
## Up to the fork

A call that leads to the fork was answered to the run's liking, for otherwise the run gave up.
-/

/-- A run that still forks takes a step. -/
theorem step_of_forks {call : Call State} (calls : s.call? = some call)
    (run : s.replay trace = some t) (forks : Forks trace) :
    ∃ event rest u, trace = event :: rest ∧ call.follow event = some u ∧
      u.replay rest = some t := by
  rcases State.replay_of_call calls run with ⟨rfl, -⟩ | goesOn
  · exact absurd forks not_forks_nil
  · exact goesOn

theorem pipe_of_forks {opened : List Descriptor} {next : PipeEnds → State}
    (calls : s.call? = some (.pipe (withPipe opened next))) (run : s.replay trace = some t)
    (forks : Forks trace) :
    ∃ ends rest, trace = ends.made :: rest ∧ (next ends).replay rest = some t ∧ Forks rest := by
  obtain ⟨event, rest, u, rfl, step, later⟩ := step_of_forks calls run forks
  obtain ⟨answer, rfl, rfl⟩ := Call.follow_pipe.mp step
  have forksLater : Forks rest := by simpa [Forks] using forks
  cases answer with
  | ok ends => exact ⟨⟨ends.1, ends.2⟩, rest, rfl, later, forksLater⟩
  | error errno => exact absurd forksLater (not_forks_of_abandon later)

/-- A run that still forks gets its input: a pipe if there is something to send, else the null
device. -/
theorem input_of_forks (run : (State.openInput job).replay trace = some t) (forks : Forks trace) :
    ∃ (input : InputEnds) (rest : List Event), trace = input.made :: rest ∧
      input.writing.isSome = job.call.input.isSome ∧
      (State.openOutput job input).replay rest = some t ∧ Forks rest := by
  cases given : job.call.input with
  | some text =>
    have calls : (State.openInput job).call? = some (.pipe (withPipe [] fun ends =>
        .openOutput job ⟨ends.reading, some ends.writing⟩)) := by
      simp only [State.call?, given]
    obtain ⟨ends, rest, rfl, later, forks⟩ := pipe_of_forks calls run forks
    exact ⟨⟨ends.reading, some ends.writing⟩, rest, rfl, rfl, later, forks⟩
  | none =>
    obtain ⟨event, rest, u, rfl, step, later⟩ := step_of_forks rfl run forks
    simp only [given] at step
    obtain ⟨answer, rfl, rfl⟩ := Call.follow_openNull.mp step
    have forksLater : Forks rest := by simpa [Forks] using forks
    cases answer with
    | ok descriptor => exact ⟨⟨descriptor, none⟩, rest, rfl, rfl, later, forksLater⟩
    | error errno => exact absurd forksLater (not_forks_of_abandon later)

/-- A run that still forks and has its pipes reads the clock, forks, and closes the ends of the
child. -/
theorem fork_of_forks {ends : Plumbing} (run : (State.readStart job ends).replay trace = some t)
    (forks : Forks trace) :
    ∃ started pid rest, trace = .clock started :: .fork (ends.childPlan job) (.ok pid) :: rest ∧
      State.replay (.acting (.setGroup pid :: ends.childEnds.map .close)
        (.awaitExec (ends.live job started pid) ends.report.reading)) rest = some t := by
  obtain ⟨event, afterClock, u, rfl, step, later⟩ := step_of_forks rfl run forks
  obtain ⟨started, rfl, rfl⟩ := Call.follow_clock.mp step
  have forksLater : Forks afterClock := by simpa [Forks] using forks
  obtain ⟨event, rest, u, rfl, step, last⟩ := step_of_forks rfl later forksLater
  obtain ⟨child, rfl, rfl⟩ := Call.follow_fork.mp step
  cases child with
  | ok pid => exact ⟨started, pid, rest, rfl, last⟩
  | error errno =>
    have forksLast : Forks rest := by simpa [Forks] using forksLater
    exact absurd forksLast (not_forks_of_abandon last)

/-- The trace of a run that forks, cut at its fork. -/
theorem launch_of_forks (run : (State.fresh job).replay trace = some s) (forks : Forks trace) :
    ∃ (launch : Launch job) (rest : List Event), trace = launch.events ++ rest ∧
      launch.state.replay rest = some s := by
  obtain ⟨event, afterToken, u, rfl, step, later⟩ := step_of_forks rfl run forks
  obtain ⟨raised, rfl, rfl⟩ := Call.follow_token.mp step
  have forksLater : Forks afterToken := by simpa [Forks] using forks
  cases raised with
  | true =>
    have ended : (State.finished (cancelledBeforeStart job)).Ordered := trivial
    exact absurd forksLater (not_forks_of_past ended trivial later)
  | false =>
    obtain ⟨input, afterInput, rfl, writable, toOutput, forksNext⟩ :=
      input_of_forks later forksLater
    obtain ⟨output, afterOutput, rfl, toErrors, forksNext⟩ := pipe_of_forks rfl toOutput forksNext
    obtain ⟨errors, afterErrors, rfl, toReport, forksNext⟩ := pipe_of_forks rfl toErrors forksNext
    obtain ⟨report, afterReport, rfl, toFork, forksNext⟩ := pipe_of_forks rfl toReport forksNext
    obtain ⟨started, pid, rest, rfl, forked⟩ := fork_of_forks toFork forksNext
    exact ⟨⟨⟨input, output, errors, report⟩, started, pid, writable⟩, rest, rfl, forked⟩

/-! ## After the fork -/

/-- What a stage keeps of its launch: the child, and while the child starts all that is known. -/
def Launch.LeadsTo (launch : Launch job) : Stage → Prop
  | .before _ _ => False
  | .starting live => live = launch.live
  | .refused live _ | .passing live _ => live.pid = launch.pid
  | .reported _ => True

/-- Every step keeps the process and the pipes of the launch. -/
theorem Stage.Step.leads {launch : Launch job} {stage next : Stage} {event : Event}
    (step : Stage.Step stage event next) (leads : launch.LeadsTo stage) : launch.LeadsTo next := by
  cases step with
  | prepare | readStart | cancelledBeforeStart | giveUp | fork => exact absurd leads id
  | refuse => exact congrArg Live.pid leads
  | @begin live =>
    obtain ⟨input, log, begun⟩ := live.begun_eq
    rw [begun]
    exact congrArg Live.pid leads
  | reapRefused | finish => trivial
  | _ => exact leads

/-- All that follows a launch keeps its process and its pipes. -/
theorem Launch.leadsTo {launch : Launch job} {rest : List Event}
    (run : launch.state.replay rest = some s) : launch.LeadsTo s.stage :=
  stage_induction_from (P := fun _ stage => launch.LeadsTo stage) launch.ordered_state rfl
    (fun _ _ _ _ before step => step.leads before) run

/-- The child of a run is the one it forked. -/
theorem pid_of_launch {launch : Launch job} {rest : List Event} {live : Live}
    (run : launch.state.replay rest = some s) (alive : s.stage.live? = some live) :
    live.pid = launch.pid := by
  have leads := Launch.leadsTo run
  cases stage : s.stage with
  | before | reported =>
    rw [stage] at alive
    cases alive
  | starting =>
    rw [stage] at alive leads
    cases alive
    exact congrArg Live.pid leads
  | _ =>
    rw [stage] at alive leads
    cases alive
    exact leads

/-- A run forks once, and to its own plan. -/
theorem forks_once {launch : Launch job} {rest : List Event} {plan : ChildPlan}
    {child : Except Errno Pid} (run : launch.state.replay rest = some s)
    (forked : .fork plan child ∈ launch.events ++ rest) :
    plan = launch.ends.childPlan job ∧ child = .ok launch.pid := by
  rcases List.mem_append.mp forked with first | again
  · have made (input : InputEnds) : input.made ≠ .fork plan child := by
      simp only [InputEnds.made]
      split <;> simp
    simpa [Launch.events, PipeEnds.made, (made launch.ends.input).symm] using first
  · exact absurd again (not_fork_of_past launch.ordered_state trivial run plan child)

end Run

end CueFront
