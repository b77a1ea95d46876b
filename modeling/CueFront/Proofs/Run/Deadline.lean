import CueFront.Proofs.Run.Capture

/-!
# Timeouts and their deadlines

A run compares the time since its start with a deadline: its timeout in nanoseconds, as a word of
64 bits holds it.  `TimesOut` names the event that makes a run a timed out one.  There is one kind
of such events, a look at the token that finds it down when the deadline is reached
(`TimesOut.late`).

A timeout of at least a millisecond is its own deadline up to `longestTimeout`, about 292 years.
Beyond that its nanoseconds do not fit the word, the deadline comes before the timeout
(`deadline_lt`), and a run can be timed out before its time (`timesOut_hastyStart`).  So the
timeouts that never end a run early are exactly those up to the longest (`timesOutAfter_iff`).
-/

namespace CueFront

namespace Run

/-! ## Deadlines that wrap around -/

/-- The longest timeout in milliseconds whose nanoseconds fit a word. -/
def longestTimeout : Int := 9223372036854

theorem fits_of_le {timeout : Int} (positive : 1 ≤ timeout) (short : timeout ≤ longestTimeout) :
    FitsWord (timeout * nanoseconds) := by
  simp only [longestTimeout, nanoseconds, FitsWord] at short ⊢
  omega

/-- A deadline fits a word, so it comes before a timeout that does not. -/
theorem deadline_lt {timeout : Int} (long : longestTimeout < timeout) :
    deadline timeout < timeout * nanoseconds := by
  have word : deadline timeout < (18446744073709551616 + 1) / 2 := Int.bmod_lt (by decide)
  simp only [longestTimeout, nanoseconds] at long ⊢
  omega

/-! ## When a run is timed out -/

/-- The run is timed out, or reported so. -/
def Stage.TimedOut : Stage → Prop
  | .before _ _ => False
  | .starting live | .refused live _ | .passing live _ => live.state = .timedOut
  | .reported report => ∃ result, report.value = .ok result ∧ result.state = .timedOut

/-- What comes next after the trace makes the run a timed out one. -/
def TimesOut (job : Job) (trace : List Event) (event : Event) : Prop :=
  ∃ s t, (State.fresh job).replay trace = some s ∧ s.next? event = some t ∧
    ¬ s.stage.TimedOut ∧ t.stage.TimedOut

/-- The time since the start of the child, by what the clock said last. -/
def elapsed? (timeout : Int) (trace : List Event) : Option Int :=
  let seen := account timeout trace
  seen.started.map (seen.now - ·)

/-- No run of this timeout is timed out before so many nanoseconds have passed. -/
def TimesOutAfter (timeout bound : Int) : Prop :=
  ∀ job trace event, job.call.timeout = timeout → TimesOut job trace event →
    ∃ elapsed, elapsed? timeout trace = some elapsed ∧ bound ≤ elapsed

/-- Only a look at the token that finds it down, with the deadline reached, makes a run a timed out
one. -/
theorem Stage.Step.late_of_timedOut {stage next : Stage} {event : Event}
    (step : Stage.Step stage event next) (before : ¬ stage.TimedOut) (after : next.TimedOut) :
    ∃ live, stage = .passing live false ∧ event = .token false ∧
      deadline live.timeout ≤ live.now - live.started := by
  cases step with
  | late busy unkilled reached => exact ⟨_, rfl, rfl, reached⟩
  | cancelledBeforeStart =>
    obtain ⟨result, same, timedOut⟩ := after
    cases same
    cases timedOut
  | giveUp =>
    obtain ⟨result, same, -⟩ := after
    cases same
  | reapRefused =>
    obtain ⟨result, same, -⟩ := after
    cases same
  | fork | raised => cases after
  | @begin live =>
    obtain ⟨input, log, begun⟩ := live.begun_eq
    rw [Stage.TimedOut, begun] at after
    cases after
  | @finish live done ended =>
    obtain ⟨result, same, timedOut⟩ := after
    obtain ⟨-, rfl⟩ := live.result_of_report same
    by_cases running : live.state = .running
    · simp [Live.result, running] at timedOut
    · simp only [Live.result, beq_iff_eq, running, if_false] at timedOut
      exact absurd timedOut before
  | _ => exact absurd after before

/-- A run is timed out at a look at the token, when its deadline is reached. -/
theorem TimesOut.late {job : Job} {trace : List Event} {event : Event}
    (timesOut : TimesOut job trace event) :
    event = .token false ∧ ∃ elapsed, elapsed? job.call.timeout trace = some elapsed ∧
      deadline job.call.timeout ≤ elapsed := by
  obtain ⟨s, t, run, step, before, after⟩ := timesOut
  have agrees := account_agrees run
  have follows := (next?_stage (ordered_of_replay (State.ordered_fresh job) run) step).2
  obtain ⟨live, stage, look, reached⟩ := follows.late_of_timedOut before after
  rw [stage, agreesAt_passing] at agrees
  rw [agrees.timeout] at reached
  refine ⟨look, live.now - live.started, ?_, reached⟩
  rw [elapsed?, agrees.started, agrees.now]
  rfl

theorem timesOutAfter_deadline (timeout : Int) : TimesOutAfter timeout (deadline timeout) := by
  rintro job trace event rfl timesOut
  exact timesOut.late.2

/-- A run that is timed out became so at one of its looks at the token. -/
theorem exists_timesOut {job : Job} {trace : List Event} {s : State}
    (run : (State.fresh job).replay trace = some s) (timedOut : s.stage.TimedOut) :
    ∃ before after, trace = before ++ .token false :: after ∧
      TimesOut job before (.token false) := by
  induction trace using List.reverseRecOn generalizing s with
  | nil =>
    cases run
    exact absurd timedOut id
  | append_singleton earlier event ih =>
    obtain ⟨u, before, step⟩ := State.replay_concat.mp run
    by_cases already : u.stage.TimedOut
    · obtain ⟨first, later, rfl, timesOut⟩ := ih before already
      exact ⟨first, later ++ [event], by simp, timesOut⟩
    · have timesOut : TimesOut job earlier event := ⟨u, s, before, step, already, timedOut⟩
      obtain rfl := timesOut.late.1
      exact ⟨earlier, [], rfl, timesOut⟩

/-! ## Runs that are timed out early -/

/-- A run without input and with a timeout. -/
def hastyJob (timeout : Int) : Job where
  call := { executable := [Byte.slash], timeout }
  environment := []

/-- The child starts at zero, and the first pass reads the clock. -/
def hastyStart (timeout now : Int) : List Event :=
  [.token false, .openNull (.ok 3), .pipe (.ok (4, 5)), .pipe (.ok (6, 7)), .pipe (.ok (8, 9)),
    .clock 0, .fork (chattyPlumbing.childPlan (hastyJob timeout)) (.ok 42), .act (.setGroup 42),
    .act (.close 3), .act (.close 5), .act (.close 7), .act (.close 9), .read 8 4 (.ok []),
    .act (.close 8), .act (.setNonblocking 4), .act (.setNonblocking 6), .clock now]

theorem elapsed?_hastyStart (timeout now : Int) :
    elapsed? timeout (hastyStart timeout now) = some (now - 0) := rfl

/-- The run then. -/
def hastyLive (timeout now : Int) : Live :=
  { (chattyPlumbing.live (hastyJob timeout) 0 42).begun with now }

theorem replay_hastyStart (timeout now : Int) :
    (State.fresh (hastyJob timeout)).replay (hastyStart timeout now) =
      some (.token (hastyLive timeout now)) := rfl

/-- A run is timed out in its first pass if the deadline is reached there. -/
theorem timesOut_hastyStart {timeout now : Int} (reached : deadline timeout ≤ now) :
    TimesOut (hastyJob timeout) (hastyStart timeout now) (.token false) := by
  have late : deadline (hastyLive timeout now).timeout ≤
      (hastyLive timeout now).now - (hastyLive timeout now).started := by
    show deadline timeout ≤ now - 0
    omega
  have running : ¬ (State.token (hastyLive timeout now)).stage.TimedOut := by
    intro timedOut
    cases timedOut
  refine ⟨_, (hastyLive timeout now).afterToken false, replay_hastyStart timeout now, rfl,
    running, ?_⟩
  rw [Live.afterToken, if_neg Bool.false_ne_true, if_pos late]
  rfl

/-- Beyond the longest timeout a run can be timed out before its time: in a first pass that comes
when the deadline is reached, or at once if that is in the past. -/
theorem not_timesOutAfter {timeout : Int} (long : longestTimeout < timeout) :
    ¬ TimesOutAfter timeout (timeout * nanoseconds) := by
  intro punctual
  have reached : deadline timeout ≤ max (deadline timeout) 0 := Int.le_max_left _ _
  obtain ⟨elapsed, same, passed⟩ :=
    punctual (hastyJob timeout) _ _ rfl (timesOut_hastyStart reached)
  rw [elapsed?_hastyStart] at same
  cases same
  have early := deadline_lt long
  simp only [longestTimeout, nanoseconds] at long early passed
  omega

/-- When runs with a timeout of at least a millisecond are timed out.

* A run that is timed out, or reported so, became it at a look at the token that found it down.
* The deadline had been reached by then.
* The whole timeout had passed by then, in every run, exactly if it is no longer than the longest
  timeout whose nanoseconds fit a word. -/
theorem timesOutAfter_iff {timeout : Int} (positive : 1 ≤ timeout) :
    (∀ job trace s, (State.fresh job).replay trace = some s → s.stage.TimedOut →
      ∃ before after, trace = before ++ .token false :: after ∧
        TimesOut job before (.token false)) ∧
      TimesOutAfter timeout (deadline timeout) ∧
      (TimesOutAfter timeout (timeout * nanoseconds) ↔ timeout ≤ longestTimeout) := by
  refine ⟨fun job trace s run timedOut => exists_timesOut run timedOut,
    timesOutAfter_deadline timeout, fun punctual => ?_, fun short => ?_⟩
  · by_contra long
    exact not_timesOutAfter (Int.not_le.mp long) punctual
  · rw [← deadline_of_fits (fits_of_le positive short)]
    exact timesOutAfter_deadline timeout

/-- No run with the longest of these timeouts is timed out before its time. -/
theorem longest_timeout_is_kept :
    1 ≤ longestTimeout ∧ TimesOutAfter longestTimeout (longestTimeout * nanoseconds) := by
  have positive : 1 ≤ longestTimeout := by decide
  obtain ⟨-, -, punctual⟩ := timesOutAfter_iff positive
  exact ⟨positive, punctual.mpr (Int.le_refl longestTimeout)⟩

/-- The shortest timeout whose nanoseconds do not fit a word. -/
def overlongTimeout : Int := longestTimeout + 1

/-- The group is killed, and the child is seen to have ended. -/
def hastyEnd : List Event :=
  [.kill (.group 42) true, .act (.poll [4, 6] [] 50), .read 4 4096 (.ok []), .act (.close 4),
    .read 6 4096 (.ok []), .act (.close 6), .wait 42 false (.ended (.signaled 9)), .clock 3000]

/-- A run that may go on for centuries is killed and reported as timed out after a microsecond. -/
theorem overlong_timeout_is_cut_short :
    1 ≤ overlongTimeout ∧ FitsWord overlongTimeout ∧
      ¬ TimesOutAfter overlongTimeout (overlongTimeout * nanoseconds) ∧
      ∃ s report result, (State.fresh (hastyJob overlongTimeout)).replay
          (hastyStart overlongTimeout 1000 ++ .token false :: hastyEnd) = some s ∧
        s.report? = some report ∧ report.value = .ok result ∧ result.state = .timedOut ∧
        elapsed? overlongTimeout (hastyStart overlongTimeout 1000) = some 1000 := by
  have word : FitsWord overlongTimeout := by
    simp only [FitsWord, overlongTimeout, longestTimeout]
    omega
  have long : longestTimeout < overlongTimeout := by decide
  refine ⟨by decide, word, not_timesOutAfter long, _, _, _, rfl, rfl, rfl, ?_⟩
  exact ⟨rfl, rfl⟩

end Run

end CueFront
