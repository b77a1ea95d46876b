import CueFront.Proofs.Run.Passes

/-!
# The end of the passes

`Cooperative` lists what a run needs of the system to come to an end: its transfers return, the
clock goes on, and a child that was killed is seen to have ended.  Nothing is asked of the
token or of the pipes; a pipe may be kept open for ever by someone who was not killed.

No single quantity decreases from pass to pass.  Before a kill the clock brings the deadline
nearer, after it the child is seen to have ended, and then the clock uses up the grace period.
`passes_end` puts the three together.  The child has always been seen to have ended when a run
leaves its passes, so the kill and the wait after them are never needed.
-/

namespace CueFront

namespace Run

/-! ## A child that was seen to have ended -/

/-- A child counts as ended only if a look at it said so. -/
def Stage.Witnessed (trace : List Event) : Stage → Prop
  | .starting live => live.exited = false
  | .passing live _ =>
    live.exited = true → ∃ waited, .wait live.pid false waited ∈ trace ∧ ¬ looksAlive waited
  | _ => True

theorem Stage.Witnessed.later {stage : Stage} {trace : List Event}
    (witnessed : stage.Witnessed trace) (event : Event) :
    stage.Witnessed (trace ++ [event]) := by
  cases stage with
  | passing live killing =>
    intro exited
    obtain ⟨waited, seen, ended⟩ := witnessed exited
    exact ⟨waited, List.mem_append_left _ seen, ended⟩
  | _ => exact witnessed

theorem Stage.Step.witnessed {stage next : Stage} {event : Event} {trace : List Event}
    (step : Stage.Step stage event next) (before : stage.Witnessed trace) :
    next.Witnessed (trace ++ [event]) := by
  cases step with
  | act => exact before.later _
  | fork => exact rfl
  | reportLater => exact before
  | @begin live =>
    intro exited
    have unseen : live.exited = false := before
    obtain ⟨input, log, begun⟩ := live.begun_eq
    simp [begun, unseen] at exited
  | reap unreaped status =>
    exact fun _ => ⟨_, List.mem_append_right _ (List.mem_singleton.mpr rfl), id⟩
  | reapLost unreaped =>
    exact fun _ => ⟨_, List.mem_append_right _ (List.mem_singleton.mpr rfl), fun alive => alive rfl⟩
  | prepare | readStart | cancelledBeforeStart | giveUp | refuse | reapLater | reapRefused
  | finish => trivial
  | _ => exact before.later _

section Course

variable {job : Job} {answers : Nat → Answers} {moment : Nat} {live : Live}

/-- A run leaves its passes only after a look at the child said that it has ended. -/
theorem ended_of_left (left : (course job answers moment).head = .readEnd live) :
    ∃ waited, .wait live.pid false waited ∈ happened job answers moment ∧ ¬ looksAlive waited := by
  have witnessed := stage_induction (P := fun trace stage => stage.Witnessed trace) trivial
    (fun _ _ _ _ before step => step.witnessed before) (replay_course job answers moment)
  rw [← State.stage_head, left] at witnessed
  have done : live.Done := ordered_of_head left
  exact witnessed done.1

/-- A pass that begins after the grace period, with the child seen to have ended, is the last. -/
theorem left_of_grace {killed : Int} (pass : (course job answers moment).head = .clock live)
    (exited : live.exited = true) (was : live.killedAt = some killed)
    (grace : killGrace ≤ (answers moment).clock - killed) :
    (course job answers (moment + 1)).HasLeft := by
  have goes : course job answers (moment + 1) = live.afterClock (answers moment).clock :=
    course_of_head pass rfl
  simp only [Live.afterClock, was, exited, Bool.true_and, decide_eq_true_eq, if_pos grace,
    Live.leave, if_true] at goes
  exact ⟨_, congrArg State.head goes⟩

/-! ## The end -/

/-- What a run needs of the system to come to an end. -/
structure Cooperative (job : Job) (answers : Nat → Answers) : Prop where
  /-- Every transfer returns. -/
  returns : ∀ moment transfer, ∃ later, moment ≤ later ∧
    (course job answers later).transfer? ≠ some transfer
  /-- The clock that passes read does not go back. -/
  steady : ∀ first later, first ≤ later → (course job answers first).AtPass →
    (course job answers later).AtPass → (answers first).clock ≤ (answers later).clock
  /-- The clock of a run that has ever more passes exceeds every bound. -/
  unbounded : (∀ moment, ∃ later, moment ≤ later ∧ (course job answers later).AtPass) →
    ∀ bound, ∃ moment, (course job answers moment).AtPass ∧ bound ≤ (answers moment).clock
  /-- A child that was killed is seen to have ended, unless it already was. -/
  reaped : ∀ moment live killing, (course job answers moment).stage = .passing live killing →
    live.killedAt.isSome → ∃ later ended sending, moment ≤ later ∧
      (course job answers later).stage = .passing ended sending ∧ ended.exited = true

theorem Cooperative.not_flooded (cooperative : Cooperative job answers) :
    ¬ Flooded job answers := by
  rintro ⟨moment, transfer, repeats⟩
  obtain ⟨later, after, returned⟩ := cooperative.returns moment transfer
  exact returned (repeats later after).1

/-- A run that does not leave its passes comes to a pass that begins after any given time. -/
theorem Cooperative.late_pass (cooperative : Cooperative job answers) {killing : Bool}
    (passing : (course job answers moment).stage = .passing live killing)
    (stays : ∀ later, moment ≤ later → ¬ (course job answers later).HasLeft) (bound : Int) :
    ∃ later current, moment ≤ later ∧ (course job answers later).head = .clock current ∧
      live.Onward current ∧ bound ≤ (answers later).clock := by
  have pass (from_ : Nat) : ∃ later, max moment from_ ≤ later ∧
      (course job answers later).AtPass := by
    obtain ⟨current, sending, here, -⟩ := course_within (Nat.le_max_left moment from_) passing
      fun between inside _ => stays between inside
    obtain ⟨later, order, check⟩ := (check_or_flooded here).resolve_right cooperative.not_flooded
    exact ⟨later, order, check.resolve_right (stays later (by omega))⟩
  obtain ⟨early, atPass, reached⟩ := cooperative.unbounded (fun from_ => by
    obtain ⟨later, order, here⟩ := pass from_
    exact ⟨later, by omega, here⟩) bound
  obtain ⟨later, order, ⟨current, here⟩⟩ := pass early
  have goesOn := cooperative.steady early later (by omega) atPass ⟨current, here⟩
  have after : moment ≤ later := by omega
  have atPass : (course job answers later).stage = .passing current false := stage_of_head here
  obtain ⟨same, sending, stage, onward⟩ := course_within after passing
    fun between inside _ => stays between inside
  cases stage.symm.trans atPass
  exact ⟨later, current, after, here, onward, by omega⟩

/-- The passes of a run end.

* They are left after finitely many calls, and at the latest at the first pass that begins when
  the child was seen to have ended and the grace period since the kill is over.
* A look at the child has always said that it has ended when they are left.
* So nothing is ever killed or waited for after them.

The clock brings the deadline nearer until there is a kill.  After that the child is seen to have
ended, and then the clock uses up the grace period. -/
theorem passes_end (cooperative : Cooperative job answers) {killing : Bool}
    (passing : (course job answers moment).stage = .passing live killing) :
    (∃ last, moment ≤ last ∧ (course job answers last).HasLeft) ∧
      (∀ pass current killed, (course job answers pass).head = .clock current →
        current.exited = true → current.killedAt = some killed →
        killGrace ≤ (answers pass).clock - killed → (course job answers (pass + 1)).HasLeft) ∧
      (∀ last final, (course job answers last).head = .readEnd final →
        ∃ waited, .wait final.pid false waited ∈ happened job answers last ∧
          ¬ looksAlive waited) ∧
      ∀ any final target, (course job answers any).head ≠ .kill final target .wait ∧
        (course job answers any).head ≠ .lastWait final := by
  refine ⟨?_, fun pass current killed => left_of_grace, fun last final => ended_of_left,
    fun any final target => ⟨fun kills => ?_, fun waits => ?_⟩⟩
  · by_contra never
    have stays (later : Nat) (after : moment ≤ later) : ¬ (course job answers later).HasLeft :=
      fun left => never ⟨later, after, left⟩
    obtain ⟨killTime, killed, sending, order, atKill, wasKilled⟩ : ∃ killTime killed sending,
        moment ≤ killTime ∧ (course job answers killTime).stage = .passing killed sending ∧
          killed.killedAt.isSome := by
      by_contra unkilled
      obtain ⟨pass, current, order, here, onward, late⟩ :=
        cooperative.late_pass passing stays (live.started + deadline live.timeout)
      have alive : current.killedAt = none := by
        by_contra killed
        exact unkilled ⟨pass, current, false, order, stage_of_head here,
          Option.isSome_iff_ne_none.mpr killed⟩
      obtain ⟨killed, kills⟩ := kill_of_reason here alive
        (.inr (by rw [onward.timeout, onward.started]; omega))
      exact unkilled ⟨pass + 2, killed, true, by omega, stage_of_head kills,
        (ordered_of_head kills).2.1⟩
    obtain ⟨endTime, ended, resending, after, atEnd, exited⟩ :=
      cooperative.reaped killTime killed sending atKill wasKilled
    obtain ⟨same, _, stage, sinceKill⟩ := course_within after atKill
      fun between inside _ => stays between (Nat.le_trans order inside)
    cases stage.symm.trans atEnd
    obtain ⟨time, when_⟩ := Option.isSome_iff_exists.mp wasKilled
    obtain ⟨pass, current, later, here, sinceEnd, grace⟩ := cooperative.late_pass atEnd
      (fun later inside => stays later (by omega)) (time + killGrace)
    exact stays (pass + 1) (by omega) (left_of_grace here (sinceEnd.exited exited)
      (sinceEnd.killedAt time (sinceKill.killedAt time when_)) (by omega))
  · exact (ordered_of_head kills).2.2.1 rfl
  · exact ordered_of_head waits

end Course

/-- A run of a second without input. -/
def heldJob : Job where
  call := { executable := [Byte.slash], timeout := 1000 }
  environment := []

/-- Someone keeps both output pipes open for ever, and the child ends when it is killed. -/
def heldAnswers (moment : Nat) : Answers where
  clock := moment * 20000000
  piped := .ok (2 * moment, 2 * moment + 1)
  waited := if moment < 60 then .running else .ended (.signaled 9)

theorem heldAnswers_cooperative : Cooperative heldJob heldAnswers := by
  obtain ⟨report, ended⟩ : ∃ report, (course heldJob heldAnswers 75).stage = .reported report :=
    ⟨_, rfl⟩
  obtain ⟨final, left, exited⟩ : ∃ final,
      (course heldJob heldAnswers 74).stage = .passing final false ∧ final.exited = true := by
    refine ⟨_, rfl, ?_⟩
    rfl
  have before {moment : Nat} {live : Live} {killing : Bool}
      (passing : (course heldJob heldAnswers moment).stage = .passing live killing) :
      moment ≤ 74 := by
    by_contra late
    cases passing.symm.trans (reported_of_le (by omega) ended)
  refine ⟨fun moment transfer => ⟨max moment 75, by omega, fun transfers => ?_⟩,
    fun first later order _ _ => ?_, fun often => ?_, fun moment live killing passing _ => ?_⟩
  · obtain ⟨live, passing⟩ := passing_of_transfer transfers
    have := before passing
    omega
  · simp only [heldAnswers]
    omega
  · obtain ⟨later, order, live, pass⟩ := often 75
    have := before (stage_of_head pass)
    omega
  · exact ⟨74, final, false, before passing, left, exited⟩

/-- The run is left although nobody closes the pipes. -/
theorem held_pipes_are_left :
    Cooperative heldJob heldAnswers ∧
      (∃ live, (course heldJob heldAnswers 16).stage = .passing live false) ∧
      ∃ last, 16 ≤ last ∧ (course heldJob heldAnswers last).HasLeft := by
  obtain ⟨live, passing⟩ : ∃ live,
      (course heldJob heldAnswers 16).stage = .passing live false := ⟨_, rfl⟩
  exact ⟨heldAnswers_cooperative, ⟨live, passing⟩,
    (passes_end heldAnswers_cooperative passing).1⟩

end Run

end CueFront
