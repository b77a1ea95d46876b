import CueFront.Proofs.Run.Course
import Mathlib.Data.Nat.Find

/-!
# Passes

A pass begins with a check: it looks at the clock and the token.  Between two checks a run
makes a bounded number of calls, except that a transfer may repeat its call: a write that was
interrupted, a read that was interrupted or gave data.  `State.rank` bounds the calls that are
left until the next check if none is repeated, and `respond_rank` says that every call counts
it down or repeats.

So a run gets back to its check unless it is flooded: from some moment on it makes the same
call again and again (`check_or_flooded`).  Nothing ties the reading of output to the deadline,
and a child that always has something to say floods a run (`busy_child_outlasts_deadline`).

A run that is not flooded leaves its passes if the clock goes on and a killed child is seen to
have ended (`passes_end`).
-/

namespace CueFront

namespace Run

/-! ## Transfers -/

/-- A kind of call that a pass may repeat. -/
inductive Transfer where
  /-- Writing input. -/
  | input
  /-- Reading output. -/
  | output
  /-- Reading error output. -/
  | errors
deriving DecidableEq, Repr

/-- The answers make a transfer repeat its call, and nothing is left that could end it. -/
def Transfer.Repeats : Transfer → Answers → Prop
  | .input, answers => answers.wrote = .error .interrupted
  | .output, answers | .errors, answers =>
    answers.read = .error .interrupted ∨ ∃ bytes, bytes ≠ [] ∧ answers.read = .ok bytes

namespace State

/-- The transfer that a run is at. -/
def transfer? : State → Option Transfer
  | .write _ _ => some .input
  | .drainOutput _ _ => some .output
  | .drainErrors _ _ => some .errors
  | .acting [] after => after.transfer?
  | _ => none

/-- The run is at the start of a pass. -/
def AtPass (s : State) : Prop := ∃ live, s.head = .clock live

/-- The run has just left the passes. -/
def HasLeft (s : State) : Prop := ∃ live, s.head = .readEnd live

/-- The run is at a check, or past the last one. -/
def AtCheck (s : State) : Prop := s.AtPass ∨ s.HasLeft

/-- How many calls are left until the next check, if no call is repeated. -/
def rank : State → Nat
  | .token live => 13 + live.unsent.length
  | .kill live (.group _) .poll => 12 + live.unsent.length
  | .kill live (.process _) .poll => 11 + live.unsent.length
  | .write live _ => 9 + live.unsent.length
  | .kill _ (.group _) .drain => 7
  | .kill _ (.process _) .drain => 6
  | .drainOutput _ _ => 5
  | .drainErrors _ _ => 3
  | .reap _ => 1
  | .acting actions after => actions.length + after.rank
  | _ => 0

section Rank

variable (live : Live) (pid : Pid)

@[simp] theorem rank_kill_group_poll :
    (State.kill live (.group pid) .poll).rank = 12 + live.unsent.length := rfl

@[simp] theorem rank_kill_process_poll :
    (State.kill live (.process pid) .poll).rank = 11 + live.unsent.length := rfl

@[simp] theorem rank_kill_group_drain : (State.kill live (.group pid) .drain).rank = 7 := rfl

@[simp] theorem rank_kill_process_drain : (State.kill live (.process pid) .drain).rank = 6 := rfl

@[simp] theorem rank_write (descriptor : Descriptor) :
    (State.write live descriptor).rank = 9 + live.unsent.length := rfl

@[simp] theorem rank_acting (actions : List Action) (after : State) :
    (State.acting actions after).rank = actions.length + after.rank := rfl

end Rank

end State

/-! ## Every call counts down or repeats -/

namespace Live

variable {live : Live}

@[simp] theorem rank_startPass (live : Live) : live.startPass.rank = 0 := by
  simp only [startPass, leave]
  split
  · rfl
  · split <;> rfl

theorem rank_toReap (live : Live) : live.toReap.rank ≤ 1 := by
  simp only [toReap]
  split
  · simp
  · exact Nat.le_refl 1

theorem rank_toDrainErrors (live : Live) : live.toDrainErrors.rank ≤ 3 := by
  simp only [toDrainErrors]
  split
  · exact Nat.le_refl 3
  · exact Nat.le_trans live.rank_toReap (by omega)

theorem rank_toDrainOutput (live : Live) : live.toDrainOutput.rank ≤ 5 := by
  simp only [toDrainOutput]
  split
  · exact Nat.le_refl 5
  · exact Nat.le_trans live.rank_toDrainErrors (by omega)

/-- A pass that writes next has the reads and the wait before it and all that is to be sent. -/
theorem rank_toWrite (live : Live) : live.toWrite.rank ≤ 9 + live.unsent.length := by
  simp only [toWrite]
  split
  · exact Nat.le_refl _
  · exact Nat.le_trans live.rank_toDrainOutput (by omega)

theorem rank_toPoll (live : Live) : live.toPoll.rank ≤ 10 + live.unsent.length := by
  have write := live.rank_toWrite
  simp only [toPoll, State.rank_acting, List.length_singleton]
  omega

theorem rank_afterToken (live : Live) (raised : Bool) :
    (live.afterToken raised).rank < 13 + live.unsent.length := by
  have poll := live.rank_toPoll
  simp only [afterToken]
  split
  · simp only [killGroup, State.rank_kill_group_poll]
    omega
  · split
    · simp only [killGroup, State.rank_kill_group_poll]
      omega
    · omega

/-- A kill counts down, also one that is tried again. -/
theorem rank_afterKill {target : Target} {after : AfterKill} (delivered : Bool)
    (goesOn : after ≠ .wait) :
    (live.afterKill target after delivered).rank < (State.kill live target after).rank := by
  have poll := live.rank_toPoll
  have drain := live.rank_toDrainOutput
  cases after with
  | wait => exact absurd rfl goesOn
  | poll =>
    cases target <;> cases delivered <;>
      simp only [afterKill, State.rank_kill_group_poll, State.rank_kill_process_poll] <;> omega
  | drain =>
    cases target <;> cases delivered <;>
      simp only [afterKill, State.rank_kill_group_drain, State.rank_kill_process_drain] <;> omega

theorem rank_closeInput {descriptor : Descriptor} {after : Live → State}
    (bounded : ∀ live, (after live).rank ≤ 7) :
    (live.closeInput descriptor after).rank < 9 := by
  have rest := bounded { live with input := none }
  simp only [closeInput, State.rank_acting, List.length_singleton]
  omega

theorem rank_afterWriteFailure (live : Live) (errno : Errno) :
    (live.afterWriteFailure errno).rank ≤ 7 := by
  simp only [afterWriteFailure]
  split
  · exact Nat.le_trans (rank_toDrainOutput _) (by omega)
  · split
    · exact Nat.le_refl 7
    · exact Nat.le_trans (rank_toDrainOutput _) (by omega)

/-! Only a transfer can fail to count down: a write that was interrupted, or a read that was
interrupted or gave data. -/

/-- A write counts down, unless it was interrupted: what it took is no longer to be sent. -/
theorem rank_afterWrite (live : Live) (descriptor : Descriptor) (answer : Except Errno Nat) :
    (live.afterWrite descriptor answer).rank < 9 + live.unsent.length ∨
      answer = .error .interrupted ∧
        live.afterWrite descriptor answer = .write live descriptor := by
  cases answer with
  | ok count =>
    refine .inl ?_
    cases count with
    | zero =>
      have closed : (live.closeInput descriptor (·.afterWriteFailure .inputOutput)).rank < 9 :=
        rank_closeInput fun live => live.rank_afterWriteFailure .inputOutput
      simp only [afterWrite]
      omega
    | succ count =>
      simp only [afterWrite]
      split
      · refine Nat.lt_of_lt_of_le (rank_closeInput fun live => ?_) (Nat.le_add_right 9 _)
        exact Nat.le_trans live.rank_toDrainOutput (by omega)
      · next remains =>
        have taken : 0 < live.unsent.length := by
          cases rest : live.unsent with
          | nil => simp [rest] at remains
          | cons b rest => exact Nat.succ_pos _
        simp only [State.rank_write, List.length_drop]
        omega
  | error errno =>
    simp only [afterWrite]
    split
    · next interrupted =>
      exact .inr ⟨congrArg _ (by simpa using interrupted), rfl⟩
    · refine .inl ?_
      split
      · exact Nat.lt_of_le_of_lt live.rank_toDrainOutput (by omega)
      · exact Nat.lt_of_lt_of_le (rank_closeInput fun live => live.rank_afterWriteFailure errno)
          (Nat.le_add_right 9 _)

/-- A read of the output counts down, unless it was interrupted or gave bytes: then it is
repeated. -/
theorem rank_afterOutput (live : Live) (descriptor : Descriptor) (answer : Except Errno Bytes) :
    (live.afterOutput descriptor answer).rank < 5 ∨
      (answer = .error .interrupted ∨ ∃ bytes, bytes ≠ [] ∧ answer = .ok bytes) ∧
        ∃ next, live.afterOutput descriptor answer = .drainOutput next descriptor := by
  simp only [afterOutput]
  split
  · next b rest => exact .inr ⟨.inr ⟨b :: rest, by simp, rfl⟩, _, rfl⟩
  · exact .inr ⟨.inl rfl, _, rfl⟩
  · exact .inl (Nat.lt_of_le_of_lt live.rank_toDrainErrors (by omega))
  · have rest := rank_toDrainErrors { live with output := none }
    simp only [State.rank_acting, List.length_singleton]
    omega

/-- A read of the error output counts down, unless it was interrupted or gave bytes: then it is
repeated. -/
theorem rank_afterErrors (live : Live) (descriptor : Descriptor) (answer : Except Errno Bytes) :
    (live.afterErrors descriptor answer).rank < 3 ∨
      (answer = .error .interrupted ∨ ∃ bytes, bytes ≠ [] ∧ answer = .ok bytes) ∧
        ∃ next, live.afterErrors descriptor answer = .drainErrors next descriptor := by
  simp only [afterErrors]
  split
  · next b rest => exact .inr ⟨.inr ⟨b :: rest, by simp, rfl⟩, _, rfl⟩
  · exact .inr ⟨.inl rfl, _, rfl⟩
  · exact .inl (Nat.lt_of_le_of_lt live.rank_toReap (by omega))
  · have rest := rank_toReap { live with errors := none }
    simp only [State.rank_acting, List.length_singleton]
    omega

theorem rank_afterReap (live : Live) (waited : Waited) : (live.afterReap waited).rank = 0 := by
  cases waited with
  | ended status => exact rank_startPass _
  | running => exact rank_startPass live
  | failed errno =>
    simp only [afterReap]
    split
    · exact rank_startPass _
    · exact rank_startPass live

end Live

/-- In a pass there is always a next call. -/
theorem calls_of_passing {s : State} {live : Live} {killing : Bool}
    (passing : s.stage = .passing live killing) : ∃ call, s.call? = some call := by
  induction s with
  | acting actions after ih =>
    cases actions with
    | nil => exact ih passing
    | cons action actions => exact ⟨_, rfl⟩
  | fresh | openInput | openOutput | openErrors | openReport | readStart | fork => cases passing
  | finished report => cases passing
  | _ => exact ⟨_, rfl⟩

/-- Within a pass a call counts the rank down, or the run is at the same transfer again. -/
theorem respond_rank {s : State} {live : Live} {killing : Bool} (answers : Answers)
    (ordered : s.Ordered) (passing : s.stage = .passing live killing) (unchecked : ¬ s.AtCheck) :
    (s.respond answers).rank < s.rank ∨
      (s.respond answers).rank = s.rank ∧ ∃ transfer, s.transfer? = some transfer ∧
        (s.respond answers).transfer? = some transfer ∧ transfer.Repeats answers := by
  induction s with
  | clock live => exact absurd (.inl ⟨live, rfl⟩) unchecked
  | readEnd live => exact absurd (.inr ⟨live, rfl⟩) unchecked
  | token live => exact .inl (live.rank_afterToken answers.token)
  | kill live target after => exact .inl (Live.rank_afterKill answers.delivered ordered.2.2.1)
  | write live descriptor =>
    rcases live.rank_afterWrite descriptor answers.wrote with less | ⟨interrupted, again⟩
    · exact .inl less
    · have same : (State.write live descriptor).respond answers = .write live descriptor := again
      exact .inr ⟨congrArg State.rank same, .input, rfl, congrArg State.transfer? same, interrupted⟩
  | drainOutput live descriptor =>
    rcases live.rank_afterOutput descriptor answers.read with less | ⟨repeated, next, again⟩
    · exact .inl less
    · have same : (State.drainOutput live descriptor).respond answers =
          .drainOutput next descriptor := again
      exact .inr ⟨by rw [same]; rfl, .output, rfl, by rw [same]; rfl, repeated⟩
  | drainErrors live descriptor =>
    rcases live.rank_afterErrors descriptor answers.read with less | ⟨repeated, next, again⟩
    · exact .inl less
    · have same : (State.drainErrors live descriptor).respond answers =
          .drainErrors next descriptor := again
      exact .inr ⟨by rw [same]; rfl, .errors, rfl, by rw [same]; rfl, repeated⟩
  | reap live =>
    have counted : ((State.reap live).respond answers).rank = 0 :=
      live.rank_afterReap answers.waited
    exact .inl (counted ▸ Nat.zero_lt_one)
  | acting actions after ih =>
    cases actions with
    | nil =>
      have passes : after.stage = .passing live killing := passing
      obtain ⟨call, calls⟩ := calls_of_passing passes
      rw [State.respond_acting_nil calls]
      simpa [State.transfer?] using ih ordered passing unchecked
    | cons action actions =>
      refine .inl ?_
      show actions.length + after.rank < (actions.length + 1) + after.rank
      omega
  | lastWait live => exact absurd ordered id
  | _ => cases passing

/-! ## What a pass keeps -/

/-- What a run keeps within its passes: what it started from, a kill that was sent, and that
the child was seen to have ended. -/
structure Live.Onward (live later : Live) : Prop where
  pid : later.pid = live.pid
  timeout : later.timeout = live.timeout
  started : later.started = live.started
  killedAt : ∀ killed, live.killedAt = some killed → later.killedAt = some killed
  exited : live.exited = true → later.exited = true

theorem Live.Onward.refl (live : Live) : live.Onward live :=
  ⟨rfl, rfl, rfl, fun _ => id, id⟩

theorem Live.Onward.trans {live later last : Live} (first : live.Onward later)
    (second : later.Onward last) : live.Onward last where
  pid := second.pid.trans first.pid
  timeout := second.timeout.trans first.timeout
  started := second.started.trans first.started
  killedAt killed was := second.killedAt killed (first.killedAt killed was)
  exited was := second.exited (first.exited was)

/-- A step of a pass stays within the passes, unless it is the last look at the clock.  A kill
is noted only when it is being sent. -/
theorem Stage.Step.onward {live : Live} {killing : Bool} {event : Event} {next : Stage}
    (step : Stage.Step (.passing live killing) event next) :
    (∃ later sending, next = .passing later sending ∧ live.Onward later ∧
      (live.killedAt = none → later.killedAt = none ∨ sending = true)) ∨
      ∃ ended report, event = .clock ended ∧ next = .reported report := by
  have sending {state : RunState} {failure : Option Errno} {input : Option Descriptor}
      (unkilled : live.killedAt = none) :
      live.Onward { live with
        state, input, writeFailure := failure, killedAt := some live.now } :=
    ⟨rfl, rfl, rfl, fun killed was => (by cases unkilled.symm.trans was), id⟩
  cases step with
  | finish done ended => exact .inr ⟨ended, _, rfl, rfl⟩
  | raised busy unkilled => exact .inl ⟨_, _, rfl, sending unkilled, fun _ => .inr rfl⟩
  | late busy unkilled reached => exact .inl ⟨_, _, rfl, sending unkilled, fun _ => .inr rfl⟩
  | writeFailed busy writing refused unshunned unkilled =>
    exact .inl ⟨_, _, rfl, sending unkilled, fun _ => .inr rfl⟩
  | reap unreaped status =>
    exact .inl ⟨_, _, rfl, ⟨rfl, rfl, rfl, fun _ => id, fun _ => rfl⟩, .inl⟩
  | reapLost unreaped =>
    exact .inl ⟨_, _, rfl, ⟨rfl, rfl, rfl, fun _ => id, fun _ => rfl⟩, .inl⟩
  | _ => exact .inl ⟨_, _, rfl, ⟨rfl, rfl, rfl, fun _ => id, id⟩, .inl⟩

/-- Within its passes a run reads the clock at its checks only. -/
theorem atCheck_of_clock {s : State} {live : Live} {killing : Bool} {next : Int → State}
    (passing : s.stage = .passing live killing) (calls : s.call? = some (.clock next)) :
    s.AtCheck := by
  induction s with
  | clock live => exact .inl ⟨live, rfl⟩
  | readEnd live => exact .inr ⟨live, rfl⟩
  | acting actions after ih =>
    cases actions with
    | nil => exact ih passing calls
    | cons action actions => cases calls
  | fresh | openInput | openOutput | openErrors | openReport | readStart | fork => cases passing
  | finished report => cases passing
  | _ => cases calls

/-- A pass that begins goes on, or the run leaves the passes. -/
theorem Live.stage_afterClock {live : Live} (busy : live.Busy) (now : Int) :
    ∃ later, (live.afterClock now).stage = .passing later false := by
  unfold Live.afterClock
  dsimp only
  split
  · exact ⟨_, rfl⟩
  · split
    · next late =>
      simp only [Bool.and_eq_true] at late
      rw [Live.leave, if_pos late.1]
      exact ⟨_, rfl⟩
    · have later : Live.Busy { live with now } := busy
      exact ⟨_, (Live.within_toPoll later).2⟩

section Course

variable {job : Job} {answers : Nat → Answers} {moment : Nat} {live : Live} {killing : Bool}

/-- A run that has not left its passes goes on within them. -/
theorem course_onward (passing : (course job answers moment).stage = .passing live killing)
    (within : ¬ (course job answers moment).HasLeft) :
    ∃ later sending, (course job answers (moment + 1)).stage = .passing later sending ∧
      live.Onward later ∧ (live.killedAt = none → later.killedAt = none ∨ sending = true) := by
  obtain ⟨call, calls⟩ := calls_of_passing passing
  have happens : (course job answers moment).event? (answers moment) =
      some (call.respond (answers moment)).1 := by simp only [State.event?, calls, Option.map_some]
  have step := course_step happens
  rw [passing] at step
  rcases step.onward with onward | ⟨ended, report, clock, reported⟩
  · exact onward
  · cases call with
    | clock next =>
      obtain ⟨live, pass⟩ := (atCheck_of_clock passing calls).resolve_right within
      obtain ⟨later, stays⟩ := live.stage_afterClock (ordered_of_head pass) (answers moment).clock
      have goes : course job answers (moment + 1) = live.afterClock (answers moment).clock :=
        course_of_head pass rfl
      rw [goes, stays] at reported
      cases reported
    | _ => cases clock

/-- A run that does not leave its passes stays within them. -/
theorem course_within {last : Nat} (order : moment ≤ last)
    (passing : (course job answers moment).stage = .passing live killing)
    (within : ∀ between, moment ≤ between → between < last →
      ¬ (course job answers between).HasLeft) :
    ∃ later sending, (course job answers last).stage = .passing later sending ∧
      live.Onward later := by
  induction last, order using Nat.le_induction with
  | base => exact ⟨live, killing, passing, .refl live⟩
  | succ last order ih =>
    obtain ⟨between, sending, passes, onward⟩ :=
      ih fun other after before => within other after (Nat.lt_succ_of_lt before)
    obtain ⟨later, resending, stays, further, -⟩ :=
      course_onward passes (within last order (Nat.lt_succ_self last))
    exact ⟨later, resending, stays, onward.trans further⟩

/-! ## Back to the check -/

/-- A check that finds the token raised or the time up leads to a kill. -/
theorem kill_of_reason
    (pass : (course job answers moment).head = .clock live) (unkilled : live.killedAt = none)
    (reason : (answers (moment + 1)).token = true ∨
      deadline live.timeout ≤ (answers moment).clock - live.started) :
    ∃ killed, (course job answers (moment + 2)).head = .kill killed (.group killed.pid) .poll := by
  have first : course job answers (moment + 1) =
      .token { live with now := (answers moment).clock } := by
    rw [course_of_head pass rfl]
    show live.afterClock (answers moment).clock = _
    simp only [Live.afterClock, unkilled]
  have second : course job answers (moment + 2) =
      Live.afterToken { live with now := (answers moment).clock } (answers (moment + 1)).token :=
    course_of_head (congrArg State.head first) rfl
  cases raised : (answers (moment + 1)).token with
  | true =>
    rw [raised, Live.afterToken, if_pos rfl] at second
    exact ⟨_, congrArg State.head second⟩
  | false =>
    have late : deadline live.timeout ≤ (answers moment).clock - live.started :=
      reason.resolve_left (by simp [raised])
    rw [raised, Live.afterToken, if_neg Bool.false_ne_true, if_pos late] at second
    exact ⟨_, congrArg State.head second⟩

/-- From some moment on the run makes the call of the same transfer again and again. -/
def Flooded (job : Job) (answers : Nat → Answers) : Prop :=
  ∃ moment transfer, ∀ later, moment ≤ later →
    (course job answers later).transfer? = some transfer ∧ transfer.Repeats (answers later)

theorem not_atCheck_of_transfer {s : State} {transfer : Transfer}
    (transfers : s.transfer? = some transfer) : ¬ s.AtCheck := by
  induction s with
  | write | drainOutput | drainErrors => rintro (⟨live, pass⟩ | ⟨live, left⟩) <;> contradiction
  | acting actions after ih =>
    cases actions with
    | nil => exact ih transfers
    | cons action actions => cases transfers
  | _ => cases transfers

/-- Only a run in its passes transfers bytes, and not while it is about to kill. -/
theorem passing_of_transfer {s : State} {transfer : Transfer}
    (transfers : s.transfer? = some transfer) : ∃ live, s.stage = .passing live false := by
  induction s with
  | write | drainOutput | drainErrors => exact ⟨_, rfl⟩
  | acting actions after ih =>
    cases actions with
    | nil => exact ih transfers
    | cons action actions => cases transfers
  | _ => cases transfers

/-- A run gets back to its check, unless it is flooded.  While it does not get back, every call
counts the rank down or repeats; from where the rank is least, every call repeats. -/
theorem check_or_flooded (passing : (course job answers moment).stage = .passing live killing) :
    (∃ later, moment ≤ later ∧ (course job answers later).AtCheck) ∨ Flooded job answers := by
  classical
  by_cases check : ∃ later, moment ≤ later ∧ (course job answers later).AtCheck
  · exact .inl check
  have unchecked (later : Nat) (after : moment ≤ later) : ¬ (course job answers later).AtCheck :=
    fun atCheck => check ⟨later, after, atCheck⟩
  let rankAt (later : Nat) : Nat := (course job answers later).rank
  have progress (later : Nat) (after : moment ≤ later) :
      rankAt (later + 1) < rankAt later ∨ rankAt (later + 1) = rankAt later ∧
        ∃ transfer, (course job answers later).transfer? = some transfer ∧
          (course job answers (later + 1)).transfer? = some transfer ∧
          transfer.Repeats (answers later) := by
    obtain ⟨live, sending, passes, -⟩ :=
      course_within after passing fun between from_ _ left => unchecked between from_ (.inr left)
    exact respond_rank (answers later) (course_ordered later) passes (unchecked later after)
  -- The rank cannot fall for ever.  From where it is least, no call counts it down.
  have occurs : ∃ least later, moment ≤ later ∧ rankAt later = least :=
    ⟨_, moment, Nat.le_refl moment, rfl⟩
  obtain ⟨bottom, after, isLeast⟩ := Nat.find_spec occurs
  have least (later : Nat) (order : moment ≤ later) : rankAt bottom ≤ rankAt later :=
    isLeast ▸ Nat.find_min' occurs ⟨later, order, rfl⟩
  have constant (later : Nat) (order : bottom ≤ later) : rankAt later = rankAt bottom := by
    induction later, order using Nat.le_induction with
    | base => rfl
    | succ later order ih =>
      have floor := least (later + 1) (by omega)
      rcases progress later (Nat.le_trans after order) with less | ⟨same, -⟩
      · omega
      · exact same.trans ih
  have repeats (later : Nat) (order : bottom ≤ later) :
      ∃ transfer, (course job answers later).transfer? = some transfer ∧
        (course job answers (later + 1)).transfer? = some transfer ∧
        transfer.Repeats (answers later) := by
    rcases progress later (Nat.le_trans after order) with less | ⟨-, again⟩
    · have here := constant later order
      have next := constant (later + 1) (by omega)
      omega
    · exact again
  obtain ⟨transfer, atBottom, -, -⟩ := repeats bottom (Nat.le_refl bottom)
  have same (later : Nat) (order : bottom ≤ later) :
      (course job answers later).transfer? = some transfer := by
    induction later, order using Nat.le_induction with
    | base => exact atBottom
    | succ later order ih =>
      obtain ⟨other, here, next, -⟩ := repeats later order
      rw [next, ← here, ih]
  refine .inr ⟨bottom, transfer, fun later order => ⟨same later order, ?_⟩⟩
  obtain ⟨other, here, -, repeated⟩ := repeats later order
  cases here.symm.trans (same later order)
  exact repeated

end Course

end Run

end CueFront
