import CueFront.Proofs.Run.Trace

/-!
# Stages

Within a pass a run goes through many states that differ only in which call comes next.  A
`Stage` forgets that order: before the fork, starting, passing, reported.  `Stage.Step` lists
what one event can do to a stage, once and for all, with everything that is known where it
happens.

* Before the fork nothing is known but the clock.
* A starting child either reports an error number or runs.
* While the passes go on a flag says that a kill is being sent.  No other call comes then.
* The passes end only when the child has ended and its output is closed, or a kill was sent.

`State.Ordered` is what the order of the calls guarantees.  `next?_stage` says that every event
of a run keeps it and is a step of the stages, so a property of stages is a property of runs.
In an ordered run the child is never killed after the last pass, and never waited for there.
-/

namespace CueFront

namespace Run

/-! ## Answers -/

/-- An error number that means: try again later. -/
def IsPause (errno : Errno) : Prop := errno = .interrupted ∨ errno = .wouldBlock

instance : DecidablePred IsPause := fun errno =>
  inferInstanceAs (Decidable (errno = .interrupted ∨ errno = .wouldBlock))

/-- The error number of a write that failed for good.  A write that takes nothing has failed. -/
def refusal? : Except Errno Nat → Option Errno
  | .ok 0 => some .inputOutput
  | .ok _ => none
  | .error errno => if IsPause errno then none else some errno

theorem refusal?_ok {count : Nat} (some_ : 0 < count) : refusal? (.ok count) = none := by
  cases count with
  | zero => exact absurd some_ (Nat.lt_irrefl 0)
  | succ count => rfl

theorem refusal?_pause {errno : Errno} (pause : IsPause errno) :
    refusal? (.error errno) = none := if_pos pause

/-- Whether a read has found the end of a pipe, or failed for good. -/
def endsPipe : Except Errno Bytes → Prop
  | .ok bytes => bytes = []
  | .error errno => ¬ IsPause errno

instance : DecidablePred endsPipe
  | .ok bytes => inferInstanceAs (Decidable (bytes = []))
  | .error errno => inferInstanceAs (Decidable (¬ IsPause errno))

theorem not_endsPipe_ok {bytes : Bytes} (some_ : bytes ≠ []) : ¬ endsPipe (.ok bytes) := some_

theorem not_endsPipe_pause {errno : Errno} (pause : IsPause errno) : ¬ endsPipe (.error errno) :=
  not_not.mpr pause

theorem endsPipe_of_ne {answer : Except Errno Bytes}
    (unread : ∀ b rest, answer ≠ .ok (b :: rest))
    (uninterrupted : answer ≠ .error .interrupted) (unblocked : answer ≠ .error .wouldBlock) :
    endsPipe answer := by
  cases answer with
  | ok bytes =>
    cases bytes with
    | nil => rfl
    | cons b rest => exact absurd rfl (unread b rest)
  | error errno =>
    rintro (rfl | rfl)
    · exact uninterrupted rfl
    · exact unblocked rfl

/-- Whether a look at the child has left open how it stands. -/
def looksAlive : Waited → Prop
  | .ended _ => False
  | .running => True
  | .failed errno => errno ≠ .noChild

namespace Live

/-- There is something left to wait for. -/
def Busy (live : Live) : Prop :=
  live.output.isSome ∨ live.errors.isSome ∨ live.exited = false

/-- The passes may end here. -/
def Done (live : Live) : Prop :=
  live.exited = true ∧ (live.output = none ∧ live.errors = none ∨ live.killedAt.isSome)

/-! ## What the steps of a pass make of a run -/

/-- The run once its program runs.  Without input the pipe of the input is closed at once. -/
def begun (live : Live) : Live :=
  let running := { live with state := .running }.say
    (Log.debug (utf8 "ProcessRunner: started pid " ++ Decimal.digits live.pid ++ utf8 ": " ++
      live.executable))
  if live.unsent.isEmpty then { running with input := none } else running

/-- A run that begins passes runs, and nothing but its input and its log is new. -/
theorem begun_eq (live : Live) :
    ∃ input log, live.begun = { live with state := .running, input, log } := by
  simp only [begun]
  split
  · exact ⟨none, _, rfl⟩
  · exact ⟨live.input, _, rfl⟩

/-- The run after the child took some of its input. -/
def took (live : Live) (count : Nat) : Live :=
  { live with
    unsent := live.unsent.drop count
    sent := live.sent + min count live.unsent.length
    input := if (live.unsent.drop count).isEmpty then none else live.input }

/-- The run after the child closed its input. -/
def shunned (live : Live) : Live :=
  { live with input := none }.say (Log.debug (utf8 "ProcessRunner: child closed stdin after " ++
    Decimal.digits live.sent ++ utf8 " bytes"))

/-- The run when a kill is sent for a reason that is a state. -/
def stopped (live : Live) (state : RunState) : Live :=
  { live with state, killedAt := some live.now }

/-- The run when a kill is sent because its input cannot be written. -/
def failed (live : Live) (errno : Errno) : Live :=
  { live with input := none, writeFailure := some errno, killedAt := some live.now }

end Live

/-! ## Stages and their steps -/

/-- How far a run has come, without the order of the calls in a pass. -/
inductive Stage where
  /-- The child is not forked; the clock was read last at `now`. -/
  | before (job : Job) (now : Int)
  /-- The child is forked. -/
  | starting (live : Live)
  /-- The child could not start its program. -/
  | refused (live : Live) (errno : Errno)
  /-- The program runs, and perhaps a kill is being sent. -/
  | passing (live : Live) (killing : Bool)
  /-- The run is over. -/
  | reported (report : RunReport)

/-- The run of a stage that has a child. -/
def Stage.live? : Stage → Option Live
  | .starting live | .refused live _ | .passing live _ => some live
  | .before _ _ | .reported _ => none

/-- The event is the failed call that an error tells of. -/
def CausedBy : RunError → Event → Prop
  | .pipes errno, .openNull (.error failure) => failure = errno
  | .pipes errno, .pipe (.error failure) => failure = errno
  | .fork errno, .fork _ (.error failure) => failure = errno
  | .start _ errno, .read _ count (.ok bytes) =>
    count = Errno.width ∧ bytes.length = Errno.width ∧ .decode bytes = errno
  | .write errno, .write _ _ answer => refusal? answer = some errno ∧ errno ≠ .brokenPipe
  | _, _ => False

/-- Whether an event belongs to the time before the fork and makes no child. -/
def isSetup : Event → Prop
  | .token _ | .openNull _ | .pipe _ | .fork _ (.error _) => True
  | _ => False

/-- What one event can do. -/
inductive Stage.Step : Stage → Event → Stage → Prop where
  /-- A call without an answer changes no stage. -/
  | act (stage : Stage) (action : Action) : Step stage (.act action) stage
  /-- The run is prepared. -/
  | prepare {job : Job} {now : Int} {event : Event} (setup : isSetup event) :
      Step (.before job now) event (.before job now)
  /-- The clock is read before the fork. -/
  | readStart (job : Job) (earlier now : Int) :
      Step (.before job earlier) (.clock now) (.before job now)
  /-- The token was raised already. -/
  | cancelledBeforeStart (job : Job) (now : Int) :
      Step (.before job now) (.token true) (.reported (Run.cancelledBeforeStart job))
  /-- The run is given up before the fork. -/
  | giveUp {job : Job} {now : Int} {event : Event} (setup : isSetup event) (error : RunError)
      (caused : CausedBy error event) :
      Step (.before job now) event (.reported (.quiet (.error error)))
  /-- The child is forked. -/
  | fork (job : Job) (now : Int) (ends : Plumbing) (pid : Pid) :
      Step (.before job now) (.fork (ends.childPlan job) (.ok pid))
        (.starting (ends.live job now pid))
  /-- The report pipe is read again. -/
  | reportLater (live : Live) (report : Descriptor) :
      Step (.starting live) (.read report Errno.width (.error .interrupted)) (.starting live)
  /-- The child reports an error number. -/
  | refuse {live : Live} {report : Descriptor} {bytes : Bytes}
      (whole : bytes.length = Errno.width) :
      Step (.starting live) (.read report Errno.width (.ok bytes))
        (.refused live (.decode bytes))
  /-- The child reports nothing. -/
  | begin {live : Live} {report : Descriptor} {answer : Except Errno Bytes}
      (silent : ∀ bytes, answer = .ok bytes → bytes.length ≠ Errno.width) :
      Step (.starting live) (.read report Errno.width answer) (.passing live.begun false)
  /-- The child that could not start is waited for again. -/
  | reapLater (live : Live) (errno : Errno) :
      Step (.refused live errno) (.wait live.pid true (.failed .interrupted))
        (.refused live errno)
  /-- The child that could not start has ended. -/
  | reapRefused (live : Live) (errno : Errno) (waited : Waited) :
      Step (.refused live errno) (.wait live.pid true waited)
        (.reported ⟨live.log, .error (.start live.executable errno)⟩)
  /-- A pass begins, or the run sees when it ends. -/
  | clock (live : Live) (now : Int) :
      Step (.passing live false) (.clock now) (.passing { live with now } false)
  /-- The token is seen raised. -/
  | raised {live : Live} (busy : live.Busy) (unkilled : live.killedAt = none) :
      Step (.passing live false) (.token true) (.passing (live.stopped .cancelled) true)
  /-- The time is up. -/
  | late {live : Live} (busy : live.Busy) (unkilled : live.killedAt = none)
      (reached : deadline live.timeout ≤ live.now - live.started) :
      Step (.passing live false) (.token false) (.passing (live.stopped .timedOut) true)
  /-- There is no reason to kill. -/
  | early {live : Live} (unkilled : live.killedAt = none)
      (ahead : live.now - live.started < deadline live.timeout) :
      Step (.passing live false) (.token false) (.passing live false)
  /-- There is no group to kill. -/
  | killMissed (live : Live) :
      Step (.passing live true) (.kill (.group live.pid) false) (.passing live true)
  /-- The group is killed. -/
  | killGroup (live : Live) :
      Step (.passing live true) (.kill (.group live.pid) true) (.passing live false)
  /-- The child alone is killed. -/
  | killChild (live : Live) (delivered : Bool) :
      Step (.passing live true) (.kill (.process live.pid) delivered) (.passing live false)
  /-- The child takes some of its input. -/
  | wrote {live : Live} {descriptor : Descriptor} {count : Nat}
      (writing : live.input = some descriptor) (some_ : 0 < count) :
      Step (.passing live false) (.write descriptor live.unsent (.ok count))
        (.passing (live.took count) false)
  /-- The child takes nothing at the moment. -/
  | writeLater {live : Live} {descriptor : Descriptor} {errno : Errno}
      (writing : live.input = some descriptor)
      (pause : IsPause errno) :
      Step (.passing live false) (.write descriptor live.unsent (.error errno))
        (.passing live false)
  /-- The child has closed its input. -/
  | writeShunned {live : Live} {descriptor : Descriptor}
      (writing : live.input = some descriptor) :
      Step (.passing live false) (.write descriptor live.unsent (.error .brokenPipe))
        (.passing live.shunned false)
  /-- The input cannot be written. -/
  | writeFailed {live : Live} {descriptor : Descriptor} {answer : Except Errno Nat}
      {errno : Errno} (busy : live.Busy) (writing : live.input = some descriptor)
      (refused : refusal? answer = some errno) (unshunned : errno ≠ .brokenPipe)
      (unkilled : live.killedAt = none) :
      Step (.passing live false) (.write descriptor live.unsent answer)
        (.passing (live.failed errno) true)
  /-- The input cannot be written, after a kill. -/
  | writeFailedLate {live : Live} {descriptor : Descriptor} {answer : Except Errno Nat}
      {errno : Errno} (writing : live.input = some descriptor)
      (refused : refusal? answer = some errno) (unshunned : errno ≠ .brokenPipe)
      (killed : live.killedAt.isSome) :
      Step (.passing live false) (.write descriptor live.unsent answer)
        (.passing { live with input := none } false)
  /-- Output is read. -/
  | readOutput {live : Live} {descriptor : Descriptor} {bytes : Bytes}
      (reading : live.output = some descriptor) (some_ : bytes ≠ []) :
      Step (.passing live false) (.read descriptor chunkSize (.ok bytes))
        (.passing { live with outputParts := bytes :: live.outputParts } false)
  /-- There is no output at the moment. -/
  | outputLater {live : Live} {descriptor : Descriptor} {errno : Errno}
      (reading : live.output = some descriptor)
      (pause : IsPause errno) :
      Step (.passing live false) (.read descriptor chunkSize (.error errno))
        (.passing live false)
  /-- The output is at its end. -/
  | outputEnds {live : Live} {descriptor : Descriptor} {answer : Except Errno Bytes}
      (reading : live.output = some descriptor) (ends : endsPipe answer) :
      Step (.passing live false) (.read descriptor chunkSize answer)
        (.passing { live with output := none } false)
  /-- Error output is read. -/
  | readErrors {live : Live} {descriptor : Descriptor} {bytes : Bytes}
      (reading : live.errors = some descriptor) (some_ : bytes ≠ []) :
      Step (.passing live false) (.read descriptor chunkSize (.ok bytes))
        (.passing { live with errorParts := bytes :: live.errorParts } false)
  /-- There is no error output at the moment. -/
  | errorsLater {live : Live} {descriptor : Descriptor} {errno : Errno}
      (reading : live.errors = some descriptor)
      (pause : IsPause errno) :
      Step (.passing live false) (.read descriptor chunkSize (.error errno))
        (.passing live false)
  /-- The error output is at its end. -/
  | errorsEnd {live : Live} {descriptor : Descriptor} {answer : Except Errno Bytes}
      (reading : live.errors = some descriptor) (ends : endsPipe answer) :
      Step (.passing live false) (.read descriptor chunkSize answer)
        (.passing { live with errors := none } false)
  /-- The child is seen to have ended. -/
  | reap {live : Live} (unreaped : live.exited = false) (status : ExitStatus) :
      Step (.passing live false) (.wait live.pid false (.ended status))
        (.passing { live with exited := true, status := some status } false)
  /-- Someone else has waited for the child. -/
  | reapLost {live : Live} (unreaped : live.exited = false) :
      Step (.passing live false) (.wait live.pid false (.failed .noChild))
        (.passing { live with exited := true } false)
  /-- The child is not seen to have ended. -/
  | reapNothing {live : Live} {waited : Waited} (unreaped : live.exited = false)
      (alive : looksAlive waited) :
      Step (.passing live false) (.wait live.pid false waited) (.passing live false)
  /-- The run ends. -/
  | finish {live : Live} (done : live.Done) (ended : Int) :
      Step (.passing live false) (.clock ended) (.reported (live.report ended))

namespace State

/-! ## The stage of a state -/

/-- The stage of a state. -/
def stage : State → Stage
  | .fresh job | .openInput job | .openOutput job _ | .openErrors job _ _
  | .openReport job _ _ _ | .readStart job _ => .before job 0
  | .fork job _ started => .before job started
  | .awaitExec live _ => .starting live
  | .reapFailed live errno => .refused live errno
  | .clock live | .token live | .write live _ | .drainOutput live _ | .drainErrors live _
  | .reap live | .lastWait live | .readEnd live => .passing live false
  | .kill live _ _ => .passing live true
  | .acting _ after => after.stage
  | .finished report => .reported report

/-- What the order of the calls guarantees. -/
def Ordered : State → Prop
  | .clock live => live.Busy
  | .token live => live.Busy ∧ live.killedAt = none
  | .kill live target after =>
    live.Busy ∧ live.killedAt.isSome ∧ after ≠ .wait ∧
      (target = .group live.pid ∨ target = .process live.pid)
  | .write live descriptor => live.Busy ∧ live.input = some descriptor
  | .drainOutput live descriptor => live.output = some descriptor
  | .drainErrors live descriptor => live.errors = some descriptor
  | .reap live => live.exited = false
  | .lastWait _ => False
  | .readEnd live => live.Done
  | .acting _ after => after.Ordered
  | _ => True

theorem ordered_fresh (job : Job) : (State.fresh job).Ordered := trivial

/-- The state is one of a pass, in order, and no kill is being sent. -/
def Within (live : Live) (s : State) : Prop := s.Ordered ∧ s.stage = .passing live false

/-- The state is in order, and the event may lead to it from the stage. -/
def Follows (stage : Stage) (event : Event) (s : State) : Prop :=
  s.Ordered ∧ Stage.Step stage event s.stage

theorem Within.follows {live : Live} {s : State} {stage : Stage} {event : Event}
    (within : Within live s) (step : Stage.Step stage event (.passing live false)) :
    Follows stage event s :=
  ⟨within.1, within.2 ▸ step⟩

end State

/-! ## Moving on within a pass -/

namespace Live

open State (Within Follows)

variable {live : Live}

theorem within_acting {actions : List Action} {s : State} :
    Within live (.acting actions s) ↔ Within live s := Iff.rfl

/-- A pass starts with a look at the clock, or the run is over and its last call follows. -/
theorem within_startPass (live : Live) : Within live live.startPass := by
  simp only [startPass]
  split
  · next busy => exact ⟨by simpa [Busy, State.Ordered, or_assoc] using busy, rfl⟩
  · next idle =>
    simp only [Bool.or_eq_true, Bool.not_eq_true', not_or, Bool.not_eq_true,
      Option.isSome_eq_false_iff, Option.isNone_iff_eq_none, Bool.not_eq_false] at idle
    obtain ⟨⟨noOutput, noErrors⟩, exited⟩ := idle
    rw [leave, if_pos exited]
    exact ⟨⟨exited, .inl ⟨noOutput, noErrors⟩⟩, rfl⟩

/-- A child that was seen to end is not looked for again. -/
theorem within_toReap (live : Live) : Within live live.toReap := by
  simp only [toReap]
  split
  · exact within_startPass live
  · next unreaped => exact ⟨Bool.eq_false_iff.mpr unreaped, rfl⟩

theorem within_toDrainErrors (live : Live) : Within live live.toDrainErrors := by
  simp only [toDrainErrors]
  split
  · next reading => exact ⟨reading, rfl⟩
  · exact within_toReap live

theorem within_toDrainOutput (live : Live) : Within live live.toDrainOutput := by
  simp only [toDrainOutput]
  split
  · next reading => exact ⟨reading, rfl⟩
  · exact within_toDrainErrors live

theorem within_toWrite (busy : live.Busy) : Within live live.toWrite := by
  simp only [toWrite]
  split
  · next writing => exact ⟨⟨busy, writing⟩, rfl⟩
  · exact within_toDrainOutput live

theorem within_toPoll (busy : live.Busy) : Within live live.toPoll :=
  within_acting.mpr (within_toWrite busy)

theorem begin_eq (live : Live) : ∃ actions, live.begin = .acting actions live.begun.startPass := by
  cases empty : live.unsent.isEmpty with
  | true => exact ⟨_, by simp [begin, begun, say, empty]; rfl⟩
  | false => exact ⟨_, by simp [begin, begun, say, empty]; rfl⟩

/-! ## What an answer leads to -/

/-- The report says that the program could not be executed, or it ends and the passes begin. -/
theorem afterReport_follows (live : Live) (report : Descriptor) (answer : Except Errno Bytes) :
    Follows (.starting live) (.read report Errno.width answer)
      (live.afterReport report answer) := by
  obtain ⟨actions, begins⟩ := begin_eq live
  have begun : Within live.begun live.begin := begins ▸ within_startPass live.begun
  simp only [afterReport]
  split
  · exact ⟨trivial, .reportLater live report⟩
  · next bytes =>
    by_cases whole : bytes.length = Errno.width
    · rw [if_pos (by simpa using whole)]
      exact ⟨trivial, .refuse whole⟩
    · rw [if_neg (by simpa using whole)]
      refine (within_acting.mpr begun).follows (.begin fun other same => ?_)
      cases same
      exact whole
  · exact (within_acting.mpr begun).follows (.begin fun _ same => by cases same)

/-- A look at the clock leads to one at the token, to the rest of the pass, or out of the passes. -/
theorem afterClock_follows (busy : live.Busy) (now : Int) :
    Follows (.passing live false) (.clock now) (live.afterClock now) := by
  unfold afterClock
  dsimp only
  split
  · next unkilled => exact ⟨⟨busy, unkilled⟩, .clock live now⟩
  · next killed dead =>
    split
    · next late =>
      simp only [Bool.and_eq_true] at late
      rw [leave, if_pos late.1]
      exact ⟨⟨late.1, .inr (by simp [dead])⟩, .clock live now⟩
    · have onward : Within { live with now } ({ live with now } : Live).toPoll := within_toPoll busy
      exact onward.follows (.clock live now)

/-- A raised token or a deadline that has passed leads to a kill of the group, anything else to the
rest of the pass. -/
theorem afterToken_follows (busy : live.Busy) (unkilled : live.killedAt = none) (raised : Bool) :
    Follows (.passing live false) (.token raised) (live.afterToken raised) := by
  simp only [afterToken]
  cases raised with
  | true =>
    rw [if_pos rfl]
    exact ⟨⟨busy, rfl, nofun, .inl rfl⟩, .raised busy unkilled⟩
  | false =>
    rw [if_neg nofun]
    split
    · next reached => exact ⟨⟨busy, rfl, nofun, .inl rfl⟩, .late busy unkilled reached⟩
    · next ahead => exact (within_toPoll busy).follows (.early unkilled (Int.not_le.mp ahead))

/-- A kill that needs no second attempt goes on as it was meant to. -/
theorem afterKill_of_sent {target : Target} {delivered : Bool}
    (sent : target = .process live.pid ∨ delivered = true) (after : AfterKill) :
    live.afterKill target after delivered = match after with
      | .poll => live.toPoll
      | .drain => live.toDrainOutput
      | .wait => .lastWait live := by
  rcases sent with rfl | rfl
  · rfl
  · cases target <;> rfl

theorem within_afterKill {target : Target} {after : AfterKill} {delivered : Bool}
    (busy : live.Busy) (goesOn : after ≠ .wait)
    (sent : target = .process live.pid ∨ delivered = true) :
    Within live (live.afterKill target after delivered) := by
  rw [afterKill_of_sent sent]
  cases after with
  | poll => exact within_toPoll busy
  | drain => exact within_toDrainOutput live
  | wait => exact absurd rfl goesOn

/-- A kill that the group did not get is sent to the child alone. -/
theorem afterKill_follows {target : Target} {after : AfterKill} (busy : live.Busy)
    (killed : live.killedAt.isSome) (goesOn : after ≠ .wait)
    (aimed : target = .group live.pid ∨ target = .process live.pid) (delivered : Bool) :
    Follows (.passing live true) (.kill target delivered)
      (live.afterKill target after delivered) := by
  rcases aimed with rfl | rfl
  · cases delivered with
    | true => exact (within_afterKill busy goesOn (.inr rfl)).follows (.killGroup live)
    | false => exact ⟨⟨busy, killed, goesOn, .inr rfl⟩, .killMissed live⟩
  · exact (within_afterKill busy goesOn (.inl rfl)).follows (.killChild live delivered)

/-- A write that failed otherwise than for lack of a reader closes the input, and the failure counts
unless there was a kill before. -/
theorem closeInput_follows {descriptor : Descriptor} {answer : Except Errno Nat}
    {errno : Errno} (busy : live.Busy) (writing : live.input = some descriptor)
    (refused : refusal? answer = some errno) (unshunned : errno ≠ .brokenPipe) :
    Follows (.passing live false) (.write descriptor live.unsent answer)
      (live.closeInput descriptor (·.afterWriteFailure errno)) := by
  have noted : (errno == Errno.brokenPipe) = false := beq_eq_false_iff_ne.mpr unshunned
  simp only [closeInput, afterWriteFailure, noted, Bool.false_eq_true, if_false]
  split
  · next unkilled =>
    exact ⟨⟨busy, rfl, nofun, .inl rfl⟩,
      .writeFailed busy writing refused unshunned (Option.isNone_iff_eq_none.mp unkilled)⟩
  · next killed =>
    refine (within_acting.mpr (within_toDrainOutput _)).follows
      (.writeFailedLate writing refused unshunned ?_)
    simpa [Option.isSome_iff_ne_none] using killed

/-- A write takes some of what is left to send, is to be tried again, or closes the input. -/
theorem afterWrite_follows {descriptor : Descriptor} (busy : live.Busy)
    (writing : live.input = some descriptor) (answer : Except Errno Nat) :
    Follows (.passing live false) (.write descriptor live.unsent answer)
      (live.afterWrite descriptor answer) := by
  cases answer with
  | ok count =>
    cases count with
    | zero => exact closeInput_follows busy writing rfl nofun
    | succ count =>
      have step := Stage.Step.wrote writing (Nat.succ_pos count)
      simp only [afterWrite]
      cases emptied : (live.unsent.drop (count + 1)).isEmpty with
      | true =>
        simp only [took, emptied, if_true] at step
        exact (within_acting.mpr (within_toDrainOutput _)).follows step
      | false =>
        simp only [took, emptied, Bool.false_eq_true, if_false] at step
        exact ⟨⟨busy, writing⟩, step⟩
  | error errno =>
    simp only [afterWrite]
    by_cases interrupted : errno = .interrupted
    · simp only [interrupted, beq_self_eq_true, if_true]
      exact ⟨⟨busy, writing⟩, .writeLater writing (.inl rfl)⟩
    · by_cases blocked : errno = .wouldBlock
      · subst blocked
        exact (within_toDrainOutput live).follows (.writeLater writing (.inr rfl))
      · simp only [beq_iff_eq, interrupted, blocked, if_false]
        by_cases shunned : errno = .brokenPipe
        · subst shunned
          exact (within_acting.mpr (within_toDrainOutput live.shunned)).follows
            (.writeShunned writing)
        · exact closeInput_follows busy writing (if_neg (not_or.mpr ⟨interrupted, blocked⟩)) shunned

/-- A read gives bytes, is to be tried again, or closes the output. -/
theorem afterOutput_follows {descriptor : Descriptor} (reading : live.output = some descriptor)
    (answer : Except Errno Bytes) :
    Follows (.passing live false) (.read descriptor chunkSize answer)
      (live.afterOutput descriptor answer) := by
  simp only [afterOutput]
  split
  · exact ⟨reading, .readOutput reading nofun⟩
  · exact ⟨reading, .outputLater reading (.inl rfl)⟩
  · exact (within_toDrainErrors live).follows (.outputLater reading (.inr rfl))
  · next unread uninterrupted unblocked =>
    exact (within_acting.mpr (within_toDrainErrors _)).follows
      (.outputEnds reading (endsPipe_of_ne unread uninterrupted unblocked))

/-- A read gives bytes, is to be tried again, or closes the error output. -/
theorem afterErrors_follows {descriptor : Descriptor} (reading : live.errors = some descriptor)
    (answer : Except Errno Bytes) :
    Follows (.passing live false) (.read descriptor chunkSize answer)
      (live.afterErrors descriptor answer) := by
  simp only [afterErrors]
  split
  · exact ⟨reading, .readErrors reading nofun⟩
  · exact ⟨reading, .errorsLater reading (.inl rfl)⟩
  · exact (within_toReap live).follows (.errorsLater reading (.inr rfl))
  · next unread uninterrupted unblocked =>
    exact (within_acting.mpr (within_toReap _)).follows
      (.errorsEnd reading (endsPipe_of_ne unread uninterrupted unblocked))

/-- A look at the child shows that it is still there, or that it has ended, with its status unless
someone else waited for it. -/
theorem afterReap_follows (unreaped : live.exited = false) (waited : Waited) :
    Follows (.passing live false) (.wait live.pid false waited) (live.afterReap waited) := by
  cases waited with
  | ended status => exact (within_startPass _).follows (.reap unreaped status)
  | running => exact (within_startPass live).follows (.reapNothing unreaped trivial)
  | failed errno =>
    simp only [afterReap]
    by_cases lost : errno = .noChild
    · subst lost
      exact (within_startPass _).follows (.reapLost unreaped)
    · rw [if_neg (by simpa using lost)]
      exact (within_startPass live).follows (.reapNothing unreaped lost)

end Live

/-! ## Every event is a step of the stages -/

open State (Follows)

/-- The start goes on with the pipe that was made, or the run is given up. -/
theorem withPipe_follows {job : Job} {now : Int} {opened : List Descriptor}
    {next : PipeEnds → State} (nextStage : ∀ ends, (next ends).stage = .before job now)
    (nextOrdered : ∀ ends, (next ends).Ordered)
    (answer : Except Errno (Descriptor × Descriptor)) :
    Follows (.before job now) (.pipe answer) (withPipe opened next answer) := by
  cases answer with
  | ok ends =>
    refine ⟨nextOrdered ⟨ends.1, ends.2⟩, ?_⟩
    exact (nextStage ⟨ends.1, ends.2⟩).symm ▸ .prepare trivial
  | error errno => exact ⟨trivial, .giveUp (by trivial) (.pipes errno) rfl⟩

/-- Every event keeps the order and is a step of the stages. -/
theorem next?_stage {s t : State} {event : Event} (ordered : s.Ordered)
    (step : s.next? event = some t) : Follows s.stage event t := by
  induction s with
  | fresh job =>
    obtain ⟨raised, rfl, rfl⟩ := Call.follow_token.mp step
    cases raised with
    | true => exact ⟨trivial, .cancelledBeforeStart job 0⟩
    | false => exact ⟨trivial, .prepare trivial⟩
  | openInput job =>
    simp only [State.next?, State.call?, Option.bind_some] at step
    cases given : job.call.input with
    | some text =>
      rw [given] at step
      obtain ⟨answer, rfl, rfl⟩ := Call.follow_pipe.mp step
      exact withPipe_follows (fun _ => rfl) (fun _ => by trivial) answer
    | none =>
      rw [given] at step
      obtain ⟨opened, rfl, rfl⟩ := Call.follow_openNull.mp step
      cases opened with
      | ok descriptor => exact ⟨trivial, .prepare trivial⟩
      | error errno => exact ⟨trivial, .giveUp (by trivial) (.pipes errno) rfl⟩
  | openOutput job input =>
    obtain ⟨answer, rfl, rfl⟩ := Call.follow_pipe.mp step
    exact withPipe_follows (fun _ => rfl) (fun _ => by trivial) answer
  | openErrors job input output =>
    obtain ⟨answer, rfl, rfl⟩ := Call.follow_pipe.mp step
    exact withPipe_follows (fun _ => rfl) (fun _ => by trivial) answer
  | openReport job input output errors =>
    obtain ⟨answer, rfl, rfl⟩ := Call.follow_pipe.mp step
    exact withPipe_follows (fun _ => rfl) (fun _ => by trivial) answer
  | readStart job ends =>
    obtain ⟨now, rfl, rfl⟩ := Call.follow_clock.mp step
    exact ⟨trivial, .readStart job 0 now⟩
  | fork job ends started =>
    obtain ⟨child, rfl, rfl⟩ := Call.follow_fork.mp step
    cases child with
    | error errno => exact ⟨trivial, .giveUp (by trivial) (.fork errno) rfl⟩
    | ok pid => exact ⟨trivial, .fork job started ends pid⟩
  | awaitExec live report =>
    obtain ⟨answer, rfl, rfl⟩ := Call.follow_read.mp step
    exact live.afterReport_follows report answer
  | reapFailed live errno =>
    obtain ⟨waited, rfl, rfl⟩ := Call.follow_wait.mp step
    split
    · exact ⟨trivial, .reapLater live errno⟩
    · exact ⟨trivial, .reapRefused live errno _⟩
  | clock live =>
    obtain ⟨now, rfl, rfl⟩ := Call.follow_clock.mp step
    exact Live.afterClock_follows ordered now
  | token live =>
    obtain ⟨raised, rfl, rfl⟩ := Call.follow_token.mp step
    exact Live.afterToken_follows ordered.1 ordered.2 raised
  | kill live target after =>
    obtain ⟨delivered, rfl, rfl⟩ := Call.follow_kill.mp step
    obtain ⟨busy, killed, goesOn, aimed⟩ := ordered
    exact Live.afterKill_follows busy killed goesOn aimed delivered
  | write live descriptor =>
    obtain ⟨answer, rfl, rfl⟩ := Call.follow_write.mp step
    exact Live.afterWrite_follows ordered.1 ordered.2 answer
  | drainOutput live descriptor =>
    obtain ⟨answer, rfl, rfl⟩ := Call.follow_read.mp step
    exact Live.afterOutput_follows ordered answer
  | drainErrors live descriptor =>
    obtain ⟨answer, rfl, rfl⟩ := Call.follow_read.mp step
    exact Live.afterErrors_follows ordered answer
  | reap live =>
    obtain ⟨waited, rfl, rfl⟩ := Call.follow_wait.mp step
    exact Live.afterReap_follows ordered waited
  | lastWait live => exact absurd ordered id
  | readEnd live =>
    obtain ⟨ended, rfl, rfl⟩ := Call.follow_clock.mp step
    exact ⟨trivial, .finish ordered ended⟩
  | acting actions after ih =>
    cases actions with
    | nil => exact ih ordered step
    | cons action actions =>
      obtain ⟨rfl, rfl⟩ := Call.follow_act.mp step
      exact ⟨ordered, .act after.stage action⟩
  | finished report => cases step

/-- What holds of the stage of a state in order and is kept by every step of the stages holds
wherever a trace leads from there. -/
theorem stage_induction_from {P : List Event → Stage → Prop} {first : State}
    (ordered : first.Ordered) (start : P [] first.stage)
    (keep : ∀ trace stage event next, P trace stage → Stage.Step stage event next →
      P (trace ++ [event]) next)
    {trace : List Event} {s : State} (run : first.replay trace = some s) : P trace s.stage := by
  have both : s.Ordered ∧ P trace s.stage := by
    refine State.replay_induction (P := fun trace s => s.Ordered ∧ P trace s.stage)
      ⟨ordered, start⟩ ?_ run
    intro earlier u event t before step
    have ⟨ordered, follows⟩ := next?_stage before.1 step
    exact ⟨ordered, keep earlier u.stage event t.stage before.2 follows⟩
  exact both.2

/-- What holds of the first stage and is kept by every step of the stages holds wherever a
trace leads. -/
theorem stage_induction {P : List Event → Stage → Prop} {job : Job} (start : P [] (.before job 0))
    (keep : ∀ trace stage event next, P trace stage → Stage.Step stage event next →
      P (trace ++ [event]) next)
    {trace : List Event} {s : State} (run : (State.fresh job).replay trace = some s) :
    P trace s.stage :=
  stage_induction_from (State.ordered_fresh job) start keep run

/-- The order of the calls is kept. -/
theorem ordered_of_replay {first s : State} {trace : List Event} (ordered : first.Ordered)
    (run : first.replay trace = some s) : s.Ordered :=
  State.replay_induction (P := fun _ s => s.Ordered) ordered
    (fun _ _ _ _ before step => (next?_stage before step).1) run

/-- A state with a report is at the last stage. -/
theorem stage_of_report? {s : State} {report : RunReport} (reported : s.report? = some report) :
    s.stage = .reported report := by
  induction s with
  | acting actions after ih =>
    cases actions with
    | nil => exact ih reported
    | cons action actions => cases reported
  | finished given =>
    cases reported
    rfl
  | _ => cases reported

end Run

end CueFront
