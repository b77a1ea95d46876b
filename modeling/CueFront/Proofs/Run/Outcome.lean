import CueFront.Proofs.Run.Stage

/-!
# How a run ends

An `Account` is what a trace tells about a run to someone who does not know the machine: the
clock, the reasons to kill in the order they were seen, whether a kill was sent, how the child
ended.  It has no state and no flags of the machine, and it never forgets a reason.

`outcome_of_trace` says how a run whose child was forked ends, from the account of its trace.
The first reason to kill decides, whatever came later.  A run without a reason is completed.
Only a completed run has an exit code, and it is the one the child gave.

The reasons are those seen before the child was seen to have ended and both of its output
pipes were at their end.  `account_agrees` says that the machine and the account agree at every
moment; each step of the stages keeps that.
-/

namespace CueFront

namespace Run

/-! ## Deadlines -/

/-- The number fits a signed 64 bit word. -/
def FitsWord (n : Int) : Prop := -9223372036854775808 ≤ n ∧ n ≤ 9223372036854775807

/-- A timeout whose nanoseconds fit a word is its own deadline. -/
theorem deadline_of_fits {timeout : Int} (fits : FitsWord (timeout * nanoseconds)) :
    deadline timeout = timeout * nanoseconds := by
  obtain ⟨least, most⟩ := fits
  simp only [deadline, word64]
  apply Int.bmod_eq_of_le
  · omega
  · omega

/-! ## Accounts -/

/-- A reason to kill the child. -/
inductive Trigger where
  /-- The token was seen raised. -/
  | raised
  /-- The time was seen to be up. -/
  | late
  /-- The input could not be written. -/
  | unwritable (errno : Errno)
deriving DecidableEq, Repr

/-- How a run ends that a reason to kill decides. -/
def Trigger.Brings : Trigger → Except RunError RunResult → Prop
  | .raised, .ok result => result.state = .cancelled
  | .late, .ok result => result.state = .timedOut
  | .unwritable errno, .error error => error = .write errno
  | _, _ => False

/-- What a trace tells about a run. -/
structure Account where
  /-- What the clock said last. -/
  now : Int := 0
  /-- What the clock had said when the child was forked. -/
  started : Option Int := none
  /-- Why the child could not start its program. -/
  refused : Option Errno := none
  /-- Whether the child is known to have ended. -/
  exited : Bool := false
  /-- How it ended, if a look at it told. -/
  status : Option ExitStatus := none
  /-- How many of the two output pipes are at their end. -/
  ended : Nat := 0
  /-- Whether a kill was sent. -/
  killed : Bool := false
  /-- The reasons to kill that were seen, oldest first. -/
  triggers : List Trigger := []
deriving Repr

namespace Account

variable {seen : Account} {timeout : Int}

/-- Nothing is left to wait for. -/
def settled (seen : Account) : Bool := seen.exited && seen.ended == 2

/-- A reason to kill counts while there is something to wait for. -/
def note (seen : Account) (trigger : Trigger) : Account :=
  if seen.settled then seen else { seen with triggers := seen.triggers ++ [trigger] }

/-- What a look at the token tells, once the child is forked.  A raised token counts before
the time. -/
def seeToken (timeout : Int) (seen : Account) (raised : Bool) : Account :=
  match seen.started with
  | none => seen
  | some started =>
    if raised then seen.note .raised
    else if deadline timeout ≤ seen.now - started then seen.note .late
    else seen

/-- What a write tells.  A child that closes its input is no reason to kill it. -/
def seeWrite (seen : Account) (answer : Except Errno Nat) : Account :=
  match refusal? answer with
  | none => seen
  | some errno => if errno = .brokenPipe then seen else seen.note (.unwritable errno)

theorem seeWrite_refused {answer : Except Errno Nat} {errno : Errno}
    (refused : refusal? answer = some errno) (unshunned : errno ≠ .brokenPipe) :
    seen.seeWrite answer = seen.note (.unwritable errno) := by
  simp only [seeWrite, refused, if_neg unshunned]

/-- What a read tells.  A report is read by its width, output in chunks. -/
def seeRead (seen : Account) (count : Nat) (answer : Except Errno Bytes) : Account :=
  if count = Errno.width then
    match answer with
    | .ok bytes =>
      if bytes.length = Errno.width then { seen with refused := some (.decode bytes) } else seen
    | .error _ => seen
  else if endsPipe answer then { seen with ended := seen.ended + 1 }
  else seen

theorem seeRead_silent {answer : Except Errno Bytes}
    (silent : ∀ bytes, answer = .ok bytes → bytes.length ≠ Errno.width) :
    seen.seeRead Errno.width answer = seen := by
  cases answer with
  | ok bytes => simp [seeRead, silent bytes rfl]
  | error errno => rfl

theorem seeRead_goesOn {answer : Except Errno Bytes} (goesOn : ¬ endsPipe answer) :
    seen.seeRead chunkSize answer = seen := by
  simp only [seeRead]
  rw [if_neg (by decide), if_neg goesOn]

theorem seeRead_ends {answer : Except Errno Bytes} (ends : endsPipe answer) :
    seen.seeRead chunkSize answer = { seen with ended := seen.ended + 1 } := by
  simp only [seeRead]
  rw [if_neg (by decide), if_pos ends]

/-- What a look at the child tells. -/
def seeWait (seen : Account) : Waited → Account
  | .ended status => { seen with exited := true, status := some status }
  | .failed errno => if errno = .noChild then { seen with exited := true } else seen
  | .running => seen

theorem seeWait_alive {waited : Waited} (alive : looksAlive waited) :
    seen.seeWait waited = seen := by
  cases waited with
  | ended status => exact absurd alive id
  | running => rfl
  | failed errno => exact if_neg alive

/-- What one event tells.  A child that could not start its program is waited for at length;
that wait tells nothing about the program. -/
def see (timeout : Int) (seen : Account) : Event → Account
  | .clock now => { seen with now }
  | .fork _ (.ok _) => { seen with started := some seen.now }
  | .token raised => seen.seeToken timeout raised
  | .write _ _ answer => seen.seeWrite answer
  | .read _ count answer => seen.seeRead count answer
  | .wait _ false waited => seen.seeWait waited
  | .kill _ _ => { seen with killed := true }
  | _ => seen

/-- The account that counts a kill that is being sent. -/
def sending (seen : Account) (killing : Bool) : Account :=
  { seen with killed := seen.killed || killing }

@[simp] theorem sending_false (seen : Account) : seen.sending false = seen := by
  simp [sending]

theorem sending_see_kill (seen : Account) (timeout : Int) (target : Target)
    (delivered killing : Bool) :
    (seen.see timeout (.kill target delivered)).sending killing = seen.sending true := by
  simp [sending, see]

/-- What is seen before the fork does not matter. -/
theorem see_setup {now : Int} {event : Event} (setup : isSetup event) :
    ({ now } : Account).see timeout event = { now } := by
  cases event with
  | fork plan child =>
    cases child with
    | ok pid => exact absurd setup id
    | error errno => rfl
  | token raised => rfl
  | openNull opened => rfl
  | pipe opened => rfl
  | _ => exact absurd setup id

end Account

/-- What the events of a trace tell. -/
def account (timeout : Int) (trace : List Event) : Account := trace.foldl (Account.see timeout) {}

theorem account_concat (timeout : Int) (trace : List Event) (event : Event) :
    account timeout (trace ++ [event]) = (account timeout trace).see timeout event := by
  simp [account]

/-! ## The machine and the account agree -/

/-- How many of the output pipes a run has closed. -/
def Live.ended (live : Live) : Nat := live.output.isNone.toNat + live.errors.isNone.toNat

/-- What the first reason to kill has made of the state of a run, of its failure to write and
of the time of the kill. -/
def Decides : Option Trigger → RunState → Option Errno → Option Int → Prop
  | none, state, failure, killedAt => state = .running ∧ failure = none ∧ killedAt = none
  | some .raised, state, failure, killedAt =>
    state = .cancelled ∧ failure = none ∧ killedAt.isSome
  | some .late, state, failure, killedAt =>
    state = .timedOut ∧ failure = none ∧ killedAt.isSome
  | some (.unwritable errno), state, failure, killedAt =>
    state = .running ∧ failure = some errno ∧ killedAt.isSome

/-- The account and a run whose program runs agree. -/
structure Agrees (timeout : Int) (seen : Account) (live : Live) : Prop where
  timeout : live.timeout = timeout
  started : seen.started = some live.started
  now : seen.now = live.now
  refused : seen.refused = none
  exited : seen.exited = live.exited
  status : seen.status = live.status
  ended : seen.ended = live.ended
  killed : seen.killed = live.killedAt.isSome
  decides : Decides seen.triggers.head? live.state live.writeFailure live.killedAt

/-- The account tells how a run ended. -/
structure Tells (seen : Account) (value : Except RunError RunResult) : Prop where
  refused : ∀ errno, seen.refused = some errno →
    seen.status = none ∧ ∃ executable, value = .error (.start executable errno)
  decided : ∀ first, seen.triggers.head? = some first →
    first.Brings value ∧ ∀ result, value = .ok result → result.exitCode = none
  undecided : seen.refused = none → seen.triggers = [] →
    ∃ result, value = .ok result ∧ result.state = .completed ∧
      result.exitCode = seen.status.map (·.code)
  killed : seen.killed = true ↔ seen.triggers ≠ []

/-- The account and a stage agree.  A kill that is being sent counts as sent. -/
def AgreesAt (timeout : Int) (seen : Account) : Stage → Prop
  | .before job now => seen = { now } ∧ job.call.timeout = timeout
  | .starting live =>
    Agrees timeout seen { live with state := .running } ∧ seen.triggers = [] ∧ seen.status = none
  | .refused _ errno =>
    seen.refused = some errno ∧ seen.status = none ∧ seen.killed = false ∧ seen.triggers = []
  | .passing live killing => Agrees timeout (seen.sending killing) live
  | .reported report => seen.started.isSome → Tells seen report.value

theorem agreesAt_passing {timeout : Int} {seen : Account} {live : Live} :
    AgreesAt timeout seen (.passing live false) ↔ Agrees timeout seen live := by
  rw [AgreesAt, Account.sending_false]

namespace Agrees

variable {timeout : Int} {seen : Account} {live : Live}

/-- While there is something to wait for, the account counts reasons to kill. -/
theorem unsettled (agrees : Agrees timeout seen live) (busy : live.Busy) :
    seen.settled = false := by
  simp only [Account.settled, agrees.exited, agrees.ended, Live.ended]
  rcases busy with reading | reading | unreaped
  · cases output : live.output with
    | none => simp [output] at reading
    | some descriptor => cases live.errors <;> simp
  · cases errors : live.errors with
    | none => simp [errors] at reading
    | some descriptor => cases live.output <;> simp
  · simp [unreaped]

/-- Without a kill there was no reason to kill. -/
theorem quiet (agrees : Agrees timeout seen live) (unkilled : live.killedAt = none) :
    seen.triggers = [] ∧ live.state = .running ∧ live.writeFailure = none := by
  have decides := agrees.decides
  cases first : seen.triggers.head? with
  | none =>
    rw [first] at decides
    exact ⟨List.head?_eq_none_iff.mp first, decides.1, decides.2.1⟩
  | some trigger =>
    rw [first] at decides
    cases trigger with
    | _ => simp [Decides, unkilled] at decides

/-- A reason to kill that is seen before any other is the first one. -/
theorem note (agrees : Agrees timeout seen live) (busy : live.Busy)
    (unkilled : live.killedAt = none) (trigger : Trigger) :
    seen.note trigger = { seen with triggers := [trigger] } := by
  rw [Account.note, agrees.unsettled busy, (agrees.quiet unkilled).1]
  rfl

/-- A reason to kill that is seen after a kill changes nothing. -/
theorem note_late (agrees : Agrees timeout seen live) (killed : live.killedAt.isSome)
    (trigger : Trigger) : Agrees timeout (seen.note trigger) live := by
  have decides := agrees.decides
  simp only [Account.note]
  split
  · exact agrees
  · refine { agrees with decides := ?_ }
    cases noted : seen.triggers with
    | nil =>
      rw [noted] at decides
      simp [decides.2.2] at killed
    | cons first later =>
      rw [noted] at decides
      exact decides

theorem seeToken (agrees : Agrees timeout seen live) (raised : Bool) :
    seen.seeToken timeout raised =
      if raised then seen.note .raised
      else if deadline live.timeout ≤ live.now - live.started then seen.note .late
      else seen := by
  simp only [Account.seeToken, agrees.started, agrees.now, agrees.timeout]

/-- The start of the program changes nothing the account knows. -/
theorem begun (agrees : Agrees timeout seen { live with state := .running }) :
    Agrees timeout seen live.begun := by
  unfold Live.begun
  dsimp only
  split
  · exact { agrees with }
  · exact { agrees with }

/-- At the end the account tells how the run ended. -/
theorem tells (agrees : Agrees timeout seen live) (ended : Int) :
    Tells { seen with now := ended } (live.report ended).value := by
  have decides := agrees.decides
  refine ⟨fun errno refused => ?_, fun first firstSeen => ?_, fun _ untriggered => ?_, ?_⟩
  · cases agrees.refused.symm.trans refused
  · rw [firstSeen] at decides
    cases first with
    | raised =>
      obtain ⟨cancelled, unfailed, -⟩ := decides
      simp [Live.report, Live.result, unfailed, cancelled, Trigger.Brings]
    | late =>
      obtain ⟨timedOut, unfailed, -⟩ := decides
      simp [Live.report, Live.result, unfailed, timedOut, Trigger.Brings]
    | unwritable errno =>
      obtain ⟨-, failed, -⟩ := decides
      simp [Live.report, failed, Trigger.Brings]
  · rw [untriggered] at decides
    obtain ⟨running, unfailed, -⟩ := decides
    refine ⟨live.result, by simp [Live.report, unfailed], ?_, ?_⟩
    · simp [Live.result, running]
    · simp [Live.result, running, agrees.status]
  · rw [agrees.killed]
    cases first : seen.triggers with
    | nil =>
      rw [first] at decides
      simp [decides.2.2]
    | cons trigger later =>
      rw [first] at decides
      cases trigger with
      | _ => simp [decides.2.2]

end Agrees

/-- Every step of the stages keeps the agreement. -/
theorem agrees_step {timeout : Int} {seen : Account} {stage next : Stage} {event : Event}
    (agrees : AgreesAt timeout seen stage) (step : Stage.Step stage event next) :
    AgreesAt timeout (seen.see timeout event) next := by
  cases step with
  | act => exact agrees
  | prepare setup =>
    obtain ⟨rfl, same⟩ := agrees
    exact ⟨Account.see_setup setup, same⟩
  | readStart job earlier now =>
    obtain ⟨rfl, same⟩ := agrees
    exact ⟨rfl, same⟩
  | cancelledBeforeStart job now =>
    obtain ⟨rfl, -⟩ := agrees
    exact nofun
  | giveUp setup error =>
    obtain ⟨rfl, -⟩ := agrees
    simp only [AgreesAt, Account.see_setup setup]
    exact nofun
  | fork job now ends pid =>
    obtain ⟨rfl, rfl⟩ := agrees
    exact ⟨⟨rfl, rfl, rfl, rfl, rfl, rfl, rfl, rfl, rfl, rfl, rfl⟩, rfl, rfl⟩
  | reportLater live report => exact agrees
  | @refuse live report bytes whole =>
    obtain ⟨agrees, untriggered, unknown⟩ := agrees
    have unkilled : live.killedAt = none := by
      have decides := agrees.decides
      rw [untriggered] at decides
      exact decides.2.2
    simp only [AgreesAt, Account.see, Account.seeRead, whole, if_true]
    exact ⟨trivial, unknown, by simp [agrees.killed, unkilled], untriggered⟩
  | begin silent =>
    obtain ⟨agrees, -⟩ := agrees
    rw [agreesAt_passing, Account.see, Account.seeRead_silent silent]
    exact agrees.begun
  | reapLater live errno => exact agrees
  | reapRefused live errno waited =>
    obtain ⟨refused, unknown, unkilled, untriggered⟩ := agrees
    intro _
    refine ⟨fun other same => ?_, fun first seenFirst => ?_, fun started => ?_, ?_⟩
    · cases refused.symm.trans same
      exact ⟨unknown, live.executable, rfl⟩
    · simp [Account.see, untriggered] at seenFirst
    · cases refused.symm.trans started
    · simp [Account.see, unkilled, untriggered]
  | clock live now =>
    rw [agreesAt_passing] at agrees ⊢
    exact { agrees with now := rfl }
  | raised busy unkilled =>
    rw [agreesAt_passing] at agrees
    rw [Account.see, agrees.seeToken, if_pos rfl, agrees.note busy unkilled]
    exact { agrees with
      killed := by simp [Account.sending, Live.stopped]
      decides := ⟨rfl, (agrees.quiet unkilled).2.2, rfl⟩ }
  | late busy unkilled reached =>
    rw [agreesAt_passing] at agrees
    rw [Account.see, agrees.seeToken, if_neg nofun, if_pos reached, agrees.note busy unkilled]
    exact { agrees with
      killed := by simp [Account.sending, Live.stopped]
      decides := ⟨rfl, (agrees.quiet unkilled).2.2, rfl⟩ }
  | early unkilled ahead =>
    rw [agreesAt_passing] at agrees ⊢
    rw [Account.see, agrees.seeToken, if_neg nofun, if_neg (Int.not_le.mpr ahead)]
    exact agrees
  | killMissed live =>
    rw [AgreesAt, Account.sending_see_kill]
    exact agrees
  | killGroup live =>
    rw [AgreesAt, Account.sending_see_kill]
    exact agrees
  | killChild live delivered =>
    rw [AgreesAt, Account.sending_see_kill]
    exact agrees
  | wrote writing some_ =>
    rw [agreesAt_passing] at agrees ⊢
    rw [Account.see, Account.seeWrite, refusal?_ok some_]
    exact { agrees with }
  | writeLater writing pause =>
    rw [agreesAt_passing] at agrees ⊢
    rw [Account.see, Account.seeWrite, refusal?_pause pause]
    exact agrees
  | writeShunned writing =>
    rw [agreesAt_passing] at agrees ⊢
    exact { agrees with }
  | writeFailed busy writing refused unshunned unkilled =>
    rw [agreesAt_passing] at agrees
    rw [Account.see, Account.seeWrite_refused refused unshunned, agrees.note busy unkilled]
    exact { agrees with
      killed := by simp [Account.sending, Live.failed]
      decides := ⟨(agrees.quiet unkilled).2.1, rfl, rfl⟩ }
  | writeFailedLate writing refused unshunned killed =>
    rw [agreesAt_passing] at agrees ⊢
    rw [Account.see, Account.seeWrite_refused refused unshunned]
    exact { agrees.note_late killed _ with }
  | readOutput reading some_ =>
    rw [agreesAt_passing] at agrees ⊢
    rw [Account.see, Account.seeRead_goesOn (not_endsPipe_ok some_)]
    exact { agrees with }
  | outputLater reading pause =>
    rw [agreesAt_passing] at agrees ⊢
    rw [Account.see, Account.seeRead_goesOn (not_endsPipe_pause pause)]
    exact agrees
  | outputEnds reading ends =>
    rw [agreesAt_passing] at agrees ⊢
    rw [Account.see, Account.seeRead_ends ends]
    refine { agrees with ended := ?_ }
    simp [agrees.ended, Live.ended, reading, Nat.add_comm]
  | readErrors reading some_ =>
    rw [agreesAt_passing] at agrees ⊢
    rw [Account.see, Account.seeRead_goesOn (not_endsPipe_ok some_)]
    exact { agrees with }
  | errorsLater reading pause =>
    rw [agreesAt_passing] at agrees ⊢
    rw [Account.see, Account.seeRead_goesOn (not_endsPipe_pause pause)]
    exact agrees
  | errorsEnd reading ends =>
    rw [agreesAt_passing] at agrees ⊢
    rw [Account.see, Account.seeRead_ends ends]
    refine { agrees with ended := ?_ }
    simp [agrees.ended, Live.ended, reading]
  | reap unreaped status =>
    rw [agreesAt_passing] at agrees ⊢
    exact { agrees with exited := rfl, status := rfl }
  | reapLost unreaped =>
    rw [agreesAt_passing] at agrees ⊢
    exact { agrees with exited := rfl }
  | reapNothing unreaped alive =>
    rw [agreesAt_passing] at agrees ⊢
    rw [Account.see, Account.seeWait_alive alive]
    exact agrees
  | finish done ended =>
    rw [agreesAt_passing] at agrees
    exact fun _ => agrees.tells ended

/-- The account and the machine agree wherever a trace leads. -/
theorem account_agrees {job : Job} {trace : List Event} {s : State}
    (run : (State.fresh job).replay trace = some s) :
    AgreesAt job.call.timeout (account job.call.timeout trace) s.stage := by
  refine stage_induction (P := fun trace stage =>
    AgreesAt job.call.timeout (account job.call.timeout trace) stage) ⟨rfl, rfl⟩ ?_ run
  intro earlier stage event next agrees step
  rw [account_concat]
  exact agrees_step agrees step

/-! ## How a run ends -/

namespace Account

@[simp] theorem note_started (seen : Account) (trigger : Trigger) :
    (seen.note trigger).started = seen.started := by grind [note]

@[simp] theorem seeToken_started (timeout : Int) (seen : Account) (raised : Bool) :
    (seen.seeToken timeout raised).started = seen.started := by grind [seeToken, note_started]

@[simp] theorem seeWrite_started (seen : Account) (answer : Except Errno Nat) :
    (seen.seeWrite answer).started = seen.started := by grind [seeWrite, note_started]

@[simp] theorem seeRead_started (seen : Account) (count : Nat) (answer : Except Errno Bytes) :
    (seen.seeRead count answer).started = seen.started := by
  cases answer <;> grind [seeRead]

@[simp] theorem seeWait_started (seen : Account) (waited : Waited) :
    (seen.seeWait waited).started = seen.started := by
  cases waited <;> grind [seeWait]

/-- Once the child is forked the account knows since when. -/
theorem started_see {seen : Account} (timeout : Int) (event : Event)
    (started : seen.started.isSome) : (seen.see timeout event).started.isSome := by
  cases event with
  | fork plan child => cases child <;> simp [see, started]
  | wait pid block waited => cases block <;> simp [see, started]
  | _ => simp [see, started]

end Account

theorem started_of_forked {timeout : Int} {trace : List Event} {plan : ChildPlan} {pid : Pid}
    (forked : .fork plan (.ok pid) ∈ trace) : (account timeout trace).started.isSome := by
  induction trace using List.reverseRecOn with
  | nil => cases forked
  | append_singleton earlier event ih =>
    rw [account_concat]
    rcases List.mem_append.mp forked with before | last
    · exact Account.started_see timeout event (ih before)
    · cases List.mem_singleton.mp last
      rfl

namespace Tells

variable {seen : Account} {value : Except RunError RunResult}

/-- The four ways a run can end. -/
theorem endings (tells : Tells seen value) :
    (∃ executable errno, value = .error (.start executable errno) ∧ seen.status = none) ∨
    (∃ errno, value = .error (.write errno) ∧ seen.killed = true) ∨
    (∃ result, value = .ok result ∧ result.exitCode = none ∧
      (result.state = .timedOut ∨ result.state = .cancelled) ∧ seen.killed = true) ∨
    (∃ result, value = .ok result ∧ result.state = .completed ∧
      result.exitCode = seen.status.map (·.code) ∧ seen.killed = false) := by
  cases refused : seen.refused with
  | some errno =>
    obtain ⟨unknown, executable, same⟩ := tells.refused errno refused
    exact .inl ⟨executable, errno, same, unknown⟩
  | none =>
    cases noted : seen.triggers with
    | nil =>
      obtain ⟨result, same, completed, code⟩ := tells.undecided refused noted
      have unkilled : seen.killed = false :=
        Bool.eq_false_iff.mpr fun killed => tells.killed.mp killed noted
      exact .inr (.inr (.inr ⟨result, same, completed, code, unkilled⟩))
    | cons first later =>
      have killed : seen.killed = true := tells.killed.mpr (by simp [noted])
      obtain ⟨brings, noCode⟩ := tells.decided first (by simp [noted])
      cases value with
      | error error =>
        cases first with
        | unwritable errno => exact .inr (.inl ⟨errno, congrArg _ brings, killed⟩)
        | _ => exact absurd brings id
      | ok result =>
        have code := noCode result rfl
        cases first with
        | raised => exact .inr (.inr (.inl ⟨result, rfl, code, .inr brings, killed⟩))
        | late => exact .inr (.inr (.inl ⟨result, rfl, code, .inl brings, killed⟩))
        | unwritable errno => exact absurd brings id

theorem ends (tells : Tells seen value) :
    (∃ error, value = .error error ∧ error.toFault.code = Fault.executeError) ∨
      ∃ result, value = .ok result ∧
        (result.state = .completed ∨ result.state = .timedOut ∨ result.state = .cancelled) := by
  rcases tells.endings with ⟨executable, errno, same, -⟩ | ⟨errno, same, -⟩ |
    ⟨result, same, -, stopped, -⟩ | ⟨result, same, completed, -⟩
  · exact .inl ⟨_, same, rfl⟩
  · exact .inl ⟨_, same, rfl⟩
  · exact .inr ⟨result, same, .inr stopped⟩
  · exact .inr ⟨result, same, .inl completed⟩

theorem exitCode (tells : Tells seen value) (result : RunResult) (same : value = .ok result) :
    (result.exitCode.isSome → result.state = .completed) ∧
      (result.state = .completed → result.exitCode = seen.status.map (·.code)) := by
  subst same
  rcases tells.endings with ⟨_, _, same, -⟩ | ⟨_, same, -⟩ |
    ⟨result, same, noCode, stopped, -⟩ | ⟨result, same, completed, code, -⟩
  · cases same
  · cases same
  · cases same
    refine ⟨fun given => by simp [noCode] at given, fun completed => ?_⟩
    rcases stopped with timedOut | cancelled
    · cases completed.symm.trans timedOut
    · cases completed.symm.trans cancelled
  · cases same
    exact ⟨fun _ => completed, fun _ => code⟩

/-- Only a child that exited with zero gives the code zero. -/
theorem code_eq_zero {status : ExitStatus} : status.code = 0 ↔ status = .exited 0 := by
  cases status <;> simp [ExitStatus.code]

theorem succeeds (tells : Tells seen value) :
    (∃ result, value = .ok result ∧ result.succeeded) ↔
      seen.killed = false ∧ seen.status = some (.exited 0) := by
  rcases tells.endings with ⟨_, _, rfl, unknown⟩ | ⟨_, rfl, killed⟩ |
    ⟨result, rfl, noCode, -, killed⟩ | ⟨result, rfl, completed, code, unkilled⟩
  · simp [unknown]
  · simp [killed]
  · simp [killed, RunResult.succeeded, noCode]
  · simp [unkilled, RunResult.succeeded, completed, code, code_eq_zero]

end Tells

/-- How a run ends whose child was forked.

* It ends in an execution error, or as completed, timed out or cancelled.
* Only a completed run has an exit code.  If a look at the child told how it ended, the code
  is the one it exited with, or 128 and the signal.  A run succeeds exactly when no kill was
  sent and the child exited with zero.
* The first reason to kill decides, whatever reasons came later.  Without one the run is
  completed, unless the program could not be started.  The time is up when the deadline is
  reached, which is the timeout itself as long as its nanoseconds fit a word. -/
theorem outcome_of_trace {job : Job} {trace : List Event} {s : State} {report : RunReport}
    {plan : ChildPlan} {pid : Pid} (run : (State.fresh job).replay trace = some s)
    (reported : s.report? = some report) (forked : .fork plan (.ok pid) ∈ trace) :
    let seen := account job.call.timeout trace
    ((∃ error, report.value = .error error ∧ error.toFault.code = Fault.executeError) ∨
      ∃ result, report.value = .ok result ∧
        (result.state = .completed ∨ result.state = .timedOut ∨ result.state = .cancelled)) ∧
    (∀ result, report.value = .ok result →
      (result.exitCode.isSome → result.state = .completed) ∧
      (result.state = .completed →
        result.exitCode = seen.status.map fun
          | .exited code => code
          | .signaled signal => 128 + signal)) ∧
    ((∃ result, report.value = .ok result ∧ result.succeeded) ↔
      seen.killed = false ∧ seen.status = some (.exited 0)) ∧
    (∀ first later, seen.triggers = first :: later → first.Brings report.value) ∧
    (seen.triggers = [] → seen.refused = none →
      ∃ result, report.value = .ok result ∧ result.state = .completed) ∧
    (∀ errno, seen.refused = some errno →
      ∃ executable, report.value = .error (.start executable errno)) ∧
    (FitsWord (job.call.timeout * nanoseconds) →
      deadline job.call.timeout = job.call.timeout * nanoseconds) := by
  intro seen
  have agrees := account_agrees run
  rw [stage_of_report? reported] at agrees
  have tells : Tells seen report.value := agrees (started_of_forked forked)
  refine ⟨tells.ends, tells.exitCode, tells.succeeds, fun first later triggers => ?_,
    fun untriggered started => ?_, fun errno refused => (tells.refused errno refused).2,
    deadline_of_fits⟩
  · exact (tells.decided first (by simp [triggers])).1
  · obtain ⟨result, same, completed, -⟩ := tells.undecided started untriggered
    exact ⟨result, same, completed⟩

/-- A run with two bytes of input. -/
def shortJob : Job where
  call := { executable := [Byte.slash], input := some [1, 2] }
  environment := []

/-- The descriptors it gets. -/
def shortPlumbing : Plumbing := ⟨⟨3, some 4⟩, ⟨5, 6⟩, ⟨7, 8⟩, ⟨9, 10⟩⟩

/-- The token is raised in the second pass, then a write fails, then the child is seen killed. -/
def cancelledTrace : List Event :=
  [.token false, .pipe (.ok (3, 4)), .pipe (.ok (5, 6)), .pipe (.ok (7, 8)), .pipe (.ok (9, 10)),
    .clock 0, .fork (shortPlumbing.childPlan shortJob) (.ok 42), .act (.setGroup 42),
    .act (.close 3), .act (.close 6), .act (.close 8), .act (.close 10), .read 9 4 (.ok []),
    .act (.close 9), .act (.setNonblocking 5), .act (.setNonblocking 7), .act (.setNonblocking 4),
    .clock 1000, .token false, .act (.poll [5, 7] [4] 50), .write 4 [1, 2] (.ok 1),
    .write 4 [2] (.error .wouldBlock), .read 5 4096 (.ok [65]), .read 5 4096 (.error .wouldBlock),
    .read 7 4096 (.error .wouldBlock), .wait 42 false .running,
    .clock 2000, .token true, .kill (.group 42) true, .act (.poll [5, 7] [4] 50),
    .write 4 [2] (.error .inputOutput), .act (.close 4), .read 5 4096 (.ok []), .act (.close 5),
    .read 7 4096 (.ok []), .act (.close 7), .wait 42 false (.ended (.signaled 9)), .clock 3000]

/-- The raised token decides, although the write failed later. -/
theorem cancelledTrace_cancelled :
    ∃ s report, (State.fresh shortJob).replay cancelledTrace = some s ∧
      s.report? = some report ∧
      .fork (shortPlumbing.childPlan shortJob) (.ok 42) ∈ cancelledTrace ∧
      (account shortJob.call.timeout cancelledTrace).triggers =
        [.raised, .unwritable .inputOutput] ∧
      ∃ result, report.value = .ok result ∧ result.state = .cancelled := by
  obtain ⟨s, report, run, reported⟩ : ∃ s report,
      (State.fresh shortJob).replay cancelledTrace = some s ∧ s.report? = some report :=
    ⟨_, _, rfl, rfl⟩
  have forked : .fork (shortPlumbing.childPlan shortJob) (.ok 42) ∈ cancelledTrace := by
    simp [cancelledTrace]
  have triggers : (account shortJob.call.timeout cancelledTrace).triggers =
      [.raised, .unwritable .inputOutput] := rfl
  refine ⟨s, report, run, reported, forked, triggers, ?_⟩
  obtain ⟨-, -, -, decides, -⟩ := outcome_of_trace run reported forked
  have brings : Trigger.raised.Brings report.value := decides .raised _ triggers
  cases same : report.value with
  | error error =>
    rw [same] at brings
    exact absurd brings id
  | ok result =>
    rw [same] at brings
    exact ⟨result, rfl, brings⟩

end Run

end CueFront
