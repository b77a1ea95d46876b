import CueFront.Proofs.Run.Passes

/-!
# Floods

The deadline and the token are looked at between transfers, never within one.  A transfer that
repeats its call for ever keeps a run from its check, and that is the only thing that can
(`returns_to_check_iff`).  A run that is not flooded sends the kill when the token is raised or
the time is up, unless it leaves its passes first.

Nothing in reading output is tied to the deadline.  A child whose every read gives data floods
the run that reads it, and neither the token nor the deadline counts any more
(`busy_child_outlasts_deadline`).
-/

namespace CueFront

namespace Run

/-! ## The kill -/

/-- A kill that is being sent stays to be sent until it was. -/
theorem Stage.Step.sending {live : Live} {event : Event} {next : Stage}
    (step : Stage.Step (.passing live true) event next) :
    next = .passing live true ∨ ∃ target delivered, event = .kill target delivered := by
  cases step with
  | act action => exact .inl rfl
  | killMissed => exact .inl rfl
  | killGroup => exact .inr ⟨_, _, rfl⟩
  | killChild live delivered => exact .inr ⟨_, _, rfl⟩

section Course

variable {job : Job} {answers : Nat → Answers} {moment : Nat} {live : Live}

/-- A kill is sent. -/
def KillsAt (job : Job) (answers : Nat → Answers) (moment : Nat) : Prop :=
  ∃ target delivered,
    (course job answers moment).event? (answers moment) = some (.kill target delivered)

theorem killsAt_of_head {target : Target} {after : AfterKill}
    (here : (course job answers moment).head = .kill live target after) :
    KillsAt job answers moment := by
  refine ⟨target, (answers moment).delivered, ?_⟩
  rw [State.event?, ← State.call?_head, here]
  rfl

/-- While no kill is sent and the passes are not left, a run that was not killed is not killed,
or a kill is still to be sent. -/
theorem unkilled_within {last : Nat} (order : moment ≤ last)
    (passing : (course job answers moment).stage = .passing live false)
    (unkilled : live.killedAt = none)
    (within : ∀ between, moment ≤ between →
      ¬ KillsAt job answers between ∧ ¬ (course job answers between).HasLeft) :
    ∃ later, live.Onward later ∧
      ((course job answers last).stage = .passing later true ∨
        (course job answers last).stage = .passing later false ∧ later.killedAt = none) := by
  induction last, order using Nat.le_induction with
  | base => exact ⟨live, .refl live, .inr ⟨passing, unkilled⟩⟩
  | succ last order ih =>
    obtain ⟨unsent, stays⟩ := within last order
    obtain ⟨later, onward, sending | ⟨waiting, alive⟩⟩ := ih
    · obtain ⟨call, calls⟩ := calls_of_passing sending
      have happens : (course job answers last).event? (answers last) =
          some (call.respond (answers last)).1 := by
        simp only [State.event?, calls, Option.map_some]
      have step := course_step happens
      rw [sending] at step
      rcases step.sending with same | ⟨target, delivered, kill⟩
      · exact ⟨later, onward, .inl same⟩
      · exact absurd ⟨target, delivered, happens.trans (congrArg some kill)⟩ unsent
    · obtain ⟨next, sending, stage, further, fate⟩ := course_onward waiting stays
      refine ⟨next, onward.trans further, ?_⟩
      cases sending with
      | true => exact .inl stage
      | false => exact .inr ⟨stage, (fate alive).resolve_right Bool.false_ne_true⟩

/-- When a run gets back to its check.

* It always does, exactly if it is not flooded.
* Then, once the token is raised for good or the time is up for good, it sends the kill or
  leaves its passes. -/
theorem returns_to_check_iff (job : Job) (answers : Nat → Answers) :
    ((∀ moment live killing, (course job answers moment).stage = .passing live killing →
        ∃ later, moment ≤ later ∧ (course job answers later).AtCheck) ↔ ¬ Flooded job answers) ∧
      (¬ Flooded job answers → ∀ moment live,
        (course job answers moment).stage = .passing live false → live.killedAt = none →
        ((∀ later, moment ≤ later → (answers later).token = true) ∨
          ∀ later, moment ≤ later →
            deadline live.timeout ≤ (answers later).clock - live.started) →
        ∃ later, moment ≤ later ∧
          (KillsAt job answers later ∨ (course job answers later).HasLeft)) := by
  refine ⟨⟨fun returns flooded => ?_, fun unflooded moment live killing passing => ?_⟩,
    fun unflooded moment live passing unkilled reason => ?_⟩
  · obtain ⟨moment, transfer, repeats⟩ := flooded
    obtain ⟨live, passing⟩ := passing_of_transfer (repeats moment (Nat.le_refl moment)).1
    obtain ⟨later, after, check⟩ := returns moment live false passing
    exact not_atCheck_of_transfer (repeats later after).1 check
  · exact (check_or_flooded passing).resolve_right unflooded
  · by_contra never
    have within (between : Nat) (from_ : moment ≤ between) :
        ¬ KillsAt job answers between ∧ ¬ (course job answers between).HasLeft :=
      ⟨fun kills => never ⟨between, from_, .inl kills⟩,
        fun left => never ⟨between, from_, .inr left⟩⟩
    obtain ⟨later, after, check⟩ := (check_or_flooded passing).resolve_right unflooded
    obtain ⟨current, pass⟩ := check.resolve_right (within later after).2
    obtain ⟨last, onward, stage⟩ := unkilled_within after passing unkilled within
    have here : Stage.passing current false = (course job answers later).stage := by
      rw [← State.stage_head, pass]
      rfl
    rw [← here] at stage
    obtain sending | ⟨same, alive⟩ := stage
    · cases sending
    · cases same
      have seen : (answers (later + 1)).token = true ∨
          deadline current.timeout ≤ (answers later).clock - current.started := by
        rcases reason with raised | late
        · exact .inl (raised (later + 1) (by omega))
        · exact .inr (by rw [onward.timeout, onward.started]; exact late later after)
      obtain ⟨killed, kills⟩ := kill_of_reason pass alive seen
      exact (within (later + 2) (by omega)).1 (killsAt_of_head kills)

end Course

/-! ## A busy child -/

/-- A run without input. -/
def busyJob : Job where
  call := { executable := [Byte.slash] }
  environment := []

/-- The child starts, and from then on every read gives a byte.  Time passes, and in the end the
token is raised. -/
def busyAnswers (moment : Nat) : Answers where
  token := 60 ≤ moment
  clock := moment * 100000000
  piped := .ok (2 * moment, 2 * moment + 1)
  read := if moment < 19 then .ok [] else .ok [120]

/-- The busy child's run reads output from its first pass on. -/
theorem course_busy {moment : Nat} (begun : 19 ≤ moment) :
    ∃ live, (course busyJob busyAnswers moment).head = .drainOutput live 4 ∧
      live.killedAt = none ∧ live.timeout = 5000 ∧ live.started = 500000000 := by
  induction moment, begun using Nat.le_induction with
  | base => refine ⟨_, rfl, ?_, ?_, ?_⟩ <;> rfl
  | succ moment begun ih =>
    obtain ⟨live, reads, unkilled, timeout, started⟩ := ih
    have data : (busyAnswers moment).read = .ok [120] := if_neg (by omega)
    have goes : course busyJob busyAnswers (moment + 1) =
        live.afterOutput 4 (busyAnswers moment).read := course_of_head reads rfl
    refine ⟨{ live with outputParts := [120] :: live.outputParts }, ?_, unkilled, timeout, started⟩
    rw [goes, data]
    rfl

/-- A child that always has something to say is not stopped: from some moment on the token is
raised and the time is up, and the run never gets back to its check. -/
theorem busy_child_outlasts_deadline :
    ∃ start, ∀ moment, start ≤ moment →
      (∃ live, (course busyJob busyAnswers moment).stage = .passing live false ∧
        live.killedAt = none ∧
        deadline live.timeout ≤ (busyAnswers moment).clock - live.started) ∧
      (busyAnswers moment).token = true ∧
      (busyAnswers moment).read = .ok [120] ∧
      ¬ (course busyJob busyAnswers moment).AtCheck ∧
      ¬ KillsAt busyJob busyAnswers moment := by
  refine ⟨60, fun moment begun => ?_⟩
  have reading : 19 ≤ moment := by omega
  obtain ⟨live, reads, unkilled, timeout, started⟩ := course_busy reading
  have stage : (course busyJob busyAnswers moment).stage = .passing live false := by
    rw [← State.stage_head, reads]
    rfl
  refine ⟨⟨live, stage, unkilled, ?_⟩, by simpa [busyAnswers] using begun, if_neg (by omega),
    ?_, ?_⟩
  · have same : deadline 5000 = 5000000000 := by decide
    rw [timeout, started, same]
    simp only [busyAnswers]
    omega
  · rintro (⟨other, pass⟩ | ⟨other, left⟩)
    · cases reads.symm.trans pass
    · cases reads.symm.trans left
  · rintro ⟨target, delivered, kill⟩
    rw [State.event?, ← State.call?_head, reads] at kill
    cases kill

end Run

end CueFront
