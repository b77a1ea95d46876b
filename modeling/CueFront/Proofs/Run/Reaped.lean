import CueFront.Proofs.Run.Input
import Mathlib.Data.List.Basic

/-!
# Reaped children

A run that has seen its child end goes on while somebody else holds an output pipe open.  It
still looks at the token and at the clock then, and a reason to kill still counts.

* Nobody of the child's group may be left, and then the child alone is to be killed.  Its pid
  was given back when it was waited for, so the signal may reach anyone
  (`signalled_after_reap_iff`, `lingering_child_is_signalled`).
* The run is reported as stopped although the child has finished in time and its exit code is
  known (`completed_after_reap_iff`, `lingering_child_is_stopped`).

Neither can happen once both output pipes are at their end: `Stage.Settled` is kept until the
run is over, and no kill comes from there.
-/

namespace CueFront

namespace Run

/-! ## Whom a kill is for -/

namespace State

/-- Whom the kill is for that is being sent. -/
def aim? : State → Option Target
  | .kill _ target _ => some target
  | .acting _ after => after.aim?
  | _ => none

variable {s t : State} {event : Event} {target : Target} {pid : Pid}

theorem sending_of_aim? (aims : s.aim? = some target) : ∃ live, s.stage = .passing live true := by
  induction s with
  | kill live aimed after => exact ⟨live, rfl⟩
  | acting actions after ih => exact ih aims
  | _ => cases aims

/-- An action that is done leaves the rest to be done. -/
theorem act_next? {action : Action} (step : s.next? (.act action) = some t) :
    t.aim? = s.aim? := by
  generalize is : Event.act action = event at step
  induction s with
  | acting actions after ih =>
    cases actions with
    | nil => exact ih step
    | cons first actions =>
      obtain ⟨-, rfl⟩ := Call.follow_act.mp step
      rfl
  | openInput job =>
    subst is
    simp only [next?, call?, Option.bind_some] at step
    split at step <;> cases step
  | _ =>
    subst is
    cases step

/-- A look at the token within a pass. -/
theorem token_next? {live : Live} {raised : Bool} (passing : s.stage = .passing live false)
    (step : s.next? (.token raised) = some t) : t = live.afterToken raised := by
  generalize is : Event.token raised = event at step
  induction s with
  | token live =>
    obtain ⟨answer, rfl, rfl⟩ := Call.follow_token.mp step
    cases is
    cases passing
    rfl
  | acting actions after ih =>
    cases actions with
    | nil => exact ih passing step
    | cons action actions =>
      obtain ⟨rfl, -⟩ := Call.follow_act.mp step
      cases is
  | fresh | openInput | openOutput | openErrors | openReport | readStart | fork => cases passing
  | _ =>
    subst is
    cases step

/-- A kill within a pass, and what was noted when it was decided. -/
theorem kill_next? {delivered : Bool} (ordered : s.Ordered)
    (step : s.next? (.kill target delivered) = some t) :
    ∃ live after, s.stage = .passing live true ∧ s.aim? = some target ∧
      live.killedAt.isSome ∧ t = live.afterKill target after delivered := by
  generalize is : Event.kill target delivered = event at step
  induction s with
  | kill live aimed after =>
    obtain ⟨answer, rfl, rfl⟩ := Call.follow_kill.mp step
    cases is
    exact ⟨live, after, rfl, rfl, ordered.2.1, rfl⟩
  | acting actions after ih =>
    cases actions with
    | nil => exact ih ordered step
    | cons action actions =>
      obtain ⟨rfl, -⟩ := Call.follow_act.mp step
      cases is
  | openInput job =>
    subst is
    simp only [next?, call?, Option.bind_some] at step
    split at step <;> cases step
  | _ =>
    subst is
    cases step

/-- Only a kill of the group that reaches nobody makes a run aim at the child alone. -/
theorem aim?_next? (ordered : s.Ordered) (step : s.next? event = some t)
    (aims : t.aim? = some (.process pid)) :
    (event = .kill (.group pid) false ∧ ∃ live after, t = .kill live (.process pid) after) ∨
      s.aim? = some (.process pid) ∧ ∃ action, event = .act action := by
  obtain ⟨sending, killing⟩ := sending_of_aim? aims
  have follows := (next?_stage ordered step).2
  rw [killing] at follows
  generalize stage : s.stage = first at follows
  cases follows with
  | act _ action => exact .inr ⟨(act_next? step).symm.trans aims, action, rfl⟩
  | raised busy unkilled =>
    rw [token_next? stage step, Live.afterToken, if_pos rfl] at aims
    cases aims
  | late busy unkilled reached =>
    rw [token_next? stage step, Live.afterToken, if_neg Bool.false_ne_true, if_pos reached] at aims
    cases aims
  | killMissed =>
    obtain ⟨live, after, same, -, -, rfl⟩ := kill_next? ordered step
    cases stage.symm.trans same
    cases aims
    exact .inl ⟨rfl, _, after, rfl⟩
  | writeFailed busy writing refused unshunned unkilled =>
    obtain ⟨live, same, -, -, -, next⟩ := write_next? ordered step
    cases stage.symm.trans same
    cases step.symm.trans (next _)
    rw [Live.afterWrite_failed refused unshunned unkilled] at aims
    cases aims

end State

/-- While no reason to kill was seen nothing went wrong. -/
theorem Agrees.untouched {timeout : Int} {seen : Account} {live : Live}
    (agrees : Agrees timeout seen live)
    (untriggered : seen.triggers = []) :
    live.state = .running ∧ live.writeFailure = none ∧ live.killedAt = none := by
  have decides := agrees.decides
  rwa [untriggered] at decides

/-- A kill of the child alone follows a kill of its group that reached nobody.  Nothing is done
between the two. -/
theorem missed_of_aim? {job : Job} {trace : List Event} {s : State} {pid : Pid}
    (run : (State.fresh job).replay trace = some s) (aims : s.aim? = some (.process pid)) :
    ∃ earlier, trace = earlier ++ [.kill (.group pid) false] := by
  have next := State.replay_induction (P := fun trace s => s.Ordered ∧
    (s.aim? = some (.process pid) → (∃ earlier, trace = earlier ++ [.kill (.group pid) false]) ∧
      ∃ live after, s = .kill live (.process pid) after))
    ⟨State.ordered_fresh job, nofun⟩ ?_ run
  · exact (next.2 aims).1
  · intro earlier u event t before step
    refine ⟨(next?_stage before.1 step).1, fun aims => ?_⟩
    rcases State.aim?_next? before.1 step aims with ⟨rfl, there⟩ | ⟨aimed, action, rfl⟩
    · exact ⟨⟨earlier, rfl⟩, there⟩
    · obtain ⟨-, live, after, rfl⟩ := before.2 aimed
      cases step

/-- The same for a whole run: the two kills stand side by side, and a reason to kill was seen. -/
theorem missed_of_signalled {job : Job} {before after : List Event} {s : State} {pid : Pid}
    {delivered : Bool}
    (run : (State.fresh job).replay (before ++ .kill (.process pid) delivered :: after) = some s) :
    ∃ earlier, before = earlier ++ [.kill (.group pid) false] ∧
      (account job.call.timeout earlier).triggers ≠ [] := by
  obtain ⟨u, _, first, step, -⟩ := State.replay_split.mp run
  obtain ⟨-, -, -, aims, -⟩ :=
    State.kill_next? (ordered_of_replay (State.ordered_fresh job) first) step
  obtain ⟨earlier, rfl⟩ := missed_of_aim? first aims
  refine ⟨earlier, rfl, fun untriggered => ?_⟩
  obtain ⟨w, before, step⟩ := State.replay_concat.mp first
  obtain ⟨live, -, killing, -, killed, -⟩ :=
    State.kill_next? (ordered_of_replay (State.ordered_fresh job) before) step
  have agrees := account_agrees before
  rw [killing] at agrees
  simp [(agrees.untouched untriggered).2.2] at killed

/-- A group that was missed is followed up. -/
theorem signalled_of_missed {job : Job} {before after : List Event} {s : State} {pid : Pid}
    (run : (State.fresh job).replay (before ++ .kill (.group pid) false :: after) = some s)
    (goesOn : after ≠ []) : ∃ delivered, .kill (.process pid) delivered ∈ after := by
  obtain ⟨u, v, first, step, later⟩ := State.replay_split.mp run
  obtain ⟨live, next, -, -, -, rfl⟩ :=
    State.kill_next? (ordered_of_replay (State.ordered_fresh job) first) step
  have calls : (live.afterKill (.group pid) next false).call? =
      some (.kill (.process pid) (live.afterKill (.process pid) next)) := rfl
  rcases State.replay_of_call calls later with ⟨rfl, -⟩ | ⟨event, rest, w, rfl, step, -⟩
  · exact absurd rfl goesOn
  · obtain ⟨delivered, rfl, -⟩ := Call.follow_kill.mp step
    exact ⟨delivered, List.mem_cons_self⟩

/-! ## When no kill can come any more -/

/-- A kill was sent, or the run has no child to kill. -/
def Stage.Spent : Stage → Prop
  | .passing live killing => killing = false ∧ live.killedAt.isSome
  | .refused _ _ | .reported _ => True
  | _ => False

theorem Stage.Step.spent {stage next : Stage} {event : Event} (step : Stage.Step stage event next)
    (spent : stage.Spent) : isKill event = false ∧ next.Spent := by
  cases step with
  | act => exact ⟨rfl, spent⟩
  | prepare | readStart | cancelledBeforeStart | giveUp | fork => exact absurd spent id
  | reportLater | refuse | begin => exact absurd spent id
  | reapLater | reapRefused | finish => exact ⟨rfl, trivial⟩
  | raised busy unkilled => simp [Stage.Spent, unkilled] at spent
  | late busy unkilled => simp [Stage.Spent, unkilled] at spent
  | writeFailed busy writing refused unshunned unkilled => simp [Stage.Spent, unkilled] at spent
  | killMissed | killGroup | killChild => cases spent.1
  | _ => exact ⟨rfl, spent⟩

theorem not_kills_of_spent {s t : State} {trace : List Event} (ordered : s.Ordered)
    (spent : s.stage.Spent) (run : s.replay trace = some t) : ¬ Kills trace := by
  have both := stage_induction_from (P := fun trace stage => ¬ Kills trace ∧ stage.Spent) ordered
    ⟨by simp [Kills], spent⟩ ?_ run
  · exact both.1
  · intro earlier stage event next before step
    obtain ⟨quiet, spent⟩ := step.spent before.2
    simp [kills_concat, quiet, before.1, spent]

/-- A run is killed once: what is killed now was not killed before. -/
theorem unkilled_of_kills {s t : State} {trace : List Event} {live : Live} (ordered : s.Ordered)
    (stage : s.stage = .passing live false) (run : s.replay trace = some t)
    (kills : Kills trace) : live.killedAt = none := by
  by_contra killed
  refine not_kills_of_spent ordered ?_ run kills
  rw [stage]
  exact ⟨rfl, Option.isSome_iff_ne_none.mpr killed⟩

/-- The run is completed, with the code of the child. -/
def Completes (status : ExitStatus) (value : Except RunError RunResult) : Prop :=
  ∃ result, value = .ok result ∧ result.state = .completed ∧ result.exitCode = some status.code

/-- Nothing is left to wait for, and nothing went wrong on the way. -/
def Stage.Settled (status : ExitStatus) : Stage → Prop
  | .passing live killing => killing = false ∧ ¬ live.Busy ∧ live.state = .running ∧
      live.writeFailure = none ∧ live.status = some status
  | .reported report => Completes status report.value
  | _ => False

theorem Stage.Step.settled {status : ExitStatus} {stage next : Stage} {event : Event}
    (step : Stage.Step stage event next) (settled : stage.Settled status) :
    isKill event = false ∧ next.Settled status := by
  cases step with
  | act => exact ⟨rfl, settled⟩
  | prepare | readStart | cancelledBeforeStart | giveUp | fork => exact absurd settled id
  | reportLater | refuse | begin | reapLater | reapRefused => exact absurd settled id
  | raised busy => exact absurd busy settled.2.1
  | late busy => exact absurd busy settled.2.1
  | writeFailed busy => exact absurd busy settled.2.1
  | killMissed | killGroup | killChild => cases settled.1
  | readOutput reading => exact absurd (.inl (by simp [reading])) settled.2.1
  | outputEnds reading => exact absurd (.inl (by simp [reading])) settled.2.1
  | readErrors reading => exact absurd (.inr (.inl (by simp [reading]))) settled.2.1
  | errorsEnd reading => exact absurd (.inr (.inl (by simp [reading]))) settled.2.1
  | reap unreaped => exact absurd (.inr (.inr unreaped)) settled.2.1
  | reapLost unreaped => exact absurd (.inr (.inr unreaped)) settled.2.1
  | @finish live done ended =>
    obtain ⟨-, -, running, unfailed, known⟩ := settled
    refine ⟨rfl, live.result, ?_, ?_, ?_⟩
    · simp [Live.report, unfailed]
    · simp [Live.result, running]
    · simp [Live.result, running, known]
  | _ => exact ⟨rfl, settled⟩

/-- A run that has nothing left to wait for is completed, and nothing is killed any more. -/
theorem quiet_of_settled {s t : State} {trace : List Event} {status : ExitStatus}
    (ordered : s.Ordered) (settled : s.stage.Settled status) (run : s.replay trace = some t) :
    ¬ Kills trace ∧ t.stage.Settled status := by
  refine stage_induction_from (P := fun trace stage => ¬ Kills trace ∧ stage.Settled status)
    ordered ⟨by simp [Kills], settled⟩ ?_ run
  intro earlier stage event next before step
  obtain ⟨quiet, settled⟩ := step.settled before.2
  simp [kills_concat, quiet, before.1, settled]

/-! ## The reap -/

/-- The run once a look at the child told how it ended. -/
def Live.reaped (live : Live) (status : ExitStatus) : Live :=
  { live with exited := true, status := some status }

namespace Agrees

variable {timeout : Int} {seen : Account} {live : Live}

/-- Once both pipes are at their end, the reap leaves nothing to wait for. -/
theorem settled (agrees : Agrees timeout seen live) (untriggered : seen.triggers = [])
    (ended : 2 ≤ seen.ended) (status : ExitStatus) :
    (Stage.passing (live.reaped status) false).Settled status := by
  obtain ⟨running, unfailed, -⟩ := agrees.untouched untriggered
  refine ⟨rfl, ?_, running, unfailed, rfl⟩
  have closed : live.output = none ∧ live.errors = none := by
    rw [agrees.ended, Live.ended] at ended
    cases output : live.output <;> cases errors : live.errors <;> simp [output, errors] at ended ⊢
  simp [Live.Busy, Live.reaped, closed]

end Agrees

/-- The run of a trace that tells how the child ended, cut there.  Only a child that could not
start is waited for at length. -/
theorem cut_at_reap {job : Job} {reaped rest : List Event} {pid : Pid} {block : Bool}
    {status : ExitStatus} {s : State}
    (run : (State.fresh job).replay (reaped ++ .wait pid block (.ended status) :: rest) = some s) :
    ∃ t : State, t.Ordered ∧ t.replay rest = some s ∧
      ((block = true ∧ t.stage.Spent) ∨ block = false ∧ Forks reaped ∧ ∃ live,
        Agrees job.call.timeout (account job.call.timeout reaped) live ∧
        t.stage = .passing (live.reaped status) false) := by
  obtain ⟨u, t, before, step, after⟩ := State.replay_split.mp run
  have agrees := account_agrees before
  obtain ⟨ordered, follows⟩ :=
    next?_stage (ordered_of_replay (State.ordered_fresh job) before) step
  refine ⟨t, ordered, after, ?_⟩
  generalize stage : u.stage = first at follows agrees
  generalize next : t.stage = last at follows
  cases follows with
  | prepare setup | giveUp setup => exact absurd setup id
  | reapRefused => exact .inl ⟨rfl, trivial⟩
  | @reap live =>
    rw [agreesAt_passing] at agrees
    exact .inr ⟨rfl, forks_of_live before (by rw [stage]; rfl), live, agrees, rfl⟩
  | reapNothing unreaped alive => exact absurd alive id

/-- A child's pid is signalled after it was given back exactly if no reason to kill was seen
before, one is seen while an output pipe is still open, and nobody of its group is left. -/
theorem signalled_after_reap_iff {job : Job} {reaped rest : List Event} {pid : Pid} {block : Bool}
    {status : ExitStatus} {s : State}
    (run : (State.fresh job).replay (reaped ++ .wait pid block (.ended status) :: rest) = some s) :
    (∃ delivered, .kill (.process pid) delivered ∈ rest) ↔
      (account job.call.timeout reaped).triggers = [] ∧
      (account job.call.timeout reaped).ended < 2 ∧
      ∃ middle last, rest = middle ++ .kill (.group pid) false :: last ∧ last ≠ [] ∧
        (account job.call.timeout
          (reaped ++ .wait pid block (.ended status) :: middle)).triggers ≠ [] := by
  constructor
  · rintro ⟨delivered, signalled⟩
    have kills : Kills rest := ⟨_, _, signalled⟩
    obtain ⟨t, ordered, later, ⟨-, spent⟩ | ⟨-, -, live, agrees, stage⟩⟩ := cut_at_reap run
    · exact absurd kills (not_kills_of_spent ordered spent later)
    · have unkilled := unkilled_of_kills ordered stage later kills
      have untriggered := (agrees.quiet unkilled).1
      refine ⟨untriggered, ?_, ?_⟩
      · by_contra ended
        have settled := agrees.settled untriggered (Nat.not_lt.mp ended) status
        rw [← stage] at settled
        exact (quiet_of_settled ordered settled later).1 kills
      · obtain ⟨middle, last, rfl⟩ := List.append_of_mem signalled
        rw [← List.cons_append, ← List.append_assoc] at run
        obtain ⟨earlier, cut, triggered⟩ := missed_of_signalled run
        rcases List.eq_nil_or_concat' middle with rfl | ⟨middle, event, rfl⟩
        · cases (List.append_inj_right' cut rfl)
        · rw [← List.cons_append, ← List.append_assoc] at cut
          obtain ⟨rfl, same⟩ := List.append_inj' cut rfl
          cases same
          exact ⟨middle, _, List.append_assoc .., List.cons_ne_nil _ _, triggered⟩
  · rintro ⟨-, -, middle, last, rfl, goesOn, -⟩
    rw [← List.cons_append, ← List.append_assoc] at run
    obtain ⟨delivered, signalled⟩ := signalled_of_missed run goesOn
    exact ⟨delivered, List.mem_append_right _ (List.mem_cons_of_mem _ signalled)⟩

/-- A run of 300 milliseconds without input. -/
def lingeringJob : Job where
  call := { executable := [Byte.slash], timeout := 300 }
  environment := []

/-- The child speaks no more in the first pass, but somebody else can still write its output. -/
def lingeringStart : List Event :=
  [.token false, .openNull (.ok 3), .pipe (.ok (4, 5)), .pipe (.ok (6, 7)), .pipe (.ok (8, 9)),
    .clock 0, .fork (chattyPlumbing.childPlan lingeringJob) (.ok 42), .act (.setGroup 42),
    .act (.close 3), .act (.close 5), .act (.close 7), .act (.close 9), .read 8 4 (.ok []),
    .act (.close 8), .act (.setNonblocking 4), .act (.setNonblocking 6),
    .clock 1000000, .token false, .act (.poll [4, 6] [] 50), .read 4 4096 (.error .wouldBlock),
    .read 6 4096 (.ok []), .act (.close 6)]

/-- The child was waited for.  The time is up while the output is still open, and nobody of the
group is left, but the pid belongs to somebody. -/
def lingeringEnd : List Event :=
  [.clock 300000000, .token false, .kill (.group 42) false, .kill (.process 42) true,
    .act (.poll [4] [] 50), .read 4 4096 (.error .wouldBlock), .clock 550000000, .clock 550001000,
    .act (.close 4)]

/-- The signal reaches whoever has the pid by then. -/
theorem lingering_child_is_signalled :
    ∃ s, (State.fresh lingeringJob).replay
        (lingeringStart ++ .wait 42 false (.ended (.exited 0)) :: lingeringEnd) = some s ∧
      .kill (.process 42) true ∈ lingeringEnd :=
  ⟨_, rfl, by simp [lingeringEnd]⟩

/-- The reason was seen after the reap, and the group had been missed. -/
theorem lingering_signal_is_late :
    (∃ s, (State.fresh lingeringJob).replay
        (lingeringStart ++ .wait 42 false (.ended (.exited 0)) :: lingeringEnd) = some s) ∧
      (account lingeringJob.call.timeout lingeringStart).triggers = [] ∧
      ∃ middle last, lingeringEnd = middle ++ .kill (.group 42) false :: last ∧
        (account lingeringJob.call.timeout
          (lingeringStart ++ .wait 42 false (.ended (.exited 0)) :: middle)).triggers ≠ [] := by
  obtain ⟨s, run⟩ : ∃ s, (State.fresh lingeringJob).replay
      (lingeringStart ++ .wait 42 false (.ended (.exited 0)) :: lingeringEnd) = some s := ⟨_, rfl⟩
  have signalled : ∃ delivered, .kill (.process 42) delivered ∈ lingeringEnd :=
    ⟨true, by simp [lingeringEnd]⟩
  obtain ⟨untriggered, -, middle, last, cut, -, triggered⟩ :=
    (signalled_after_reap_iff run).mp signalled
  exact ⟨⟨s, run⟩, untriggered, middle, last, cut, triggered⟩

/-! ## Children that finished in time -/

/-- The child was seen to end, and how is known. -/
def Stage.Known (status : ExitStatus) : Stage → Prop
  | .passing live _ => live.exited = true ∧ live.status = some status ∧ live.state ≠ .completed
  | .reported report =>
    (∀ executable errno, report.value ≠ .error (.start executable errno)) ∧
      ∀ result, report.value = .ok result → result.state = .completed →
        result.exitCode = some status.code
  | _ => False

theorem Stage.Step.known {status : ExitStatus} {stage next : Stage} {event : Event}
    (step : Stage.Step stage event next) (known : stage.Known status) : next.Known status := by
  cases step with
  | act => exact known
  | prepare | readStart | cancelledBeforeStart | giveUp | fork => exact absurd known id
  | reportLater | refuse | begin | reapLater | reapRefused => exact absurd known id
  | raised | late => exact ⟨known.1, known.2.1, nofun⟩
  | reap unreaped => cases unreaped.symm.trans known.1
  | reapLost unreaped => cases unreaped.symm.trans known.1
  | @finish live done ended =>
    obtain ⟨-, status, uncompleted⟩ := known
    refine ⟨fun executable errno same => ?_, fun result same completed => ?_⟩
    · cases failure : live.writeFailure <;> simp [Live.report, failure] at same
    · obtain ⟨-, rfl⟩ := live.result_of_report same
      by_cases running : live.state = .running
      · simp [Live.result, running, status]
      · simp [Live.result, running, uncompleted] at completed
  | _ => exact known

/-- Nothing but a reason to kill keeps the code of a child that was seen to end. -/
theorem Tells.completes_iff {seen : Account} {status : ExitStatus} {report : RunReport}
    (tells : Tells seen report.value) (known : (Stage.reported report).Known status) :
    Completes status report.value ↔ seen.triggers = [] := by
  constructor
  · rintro ⟨result, same, -, code⟩
    cases noted : seen.triggers with
    | nil => rfl
    | cons first later =>
      have codeless := (tells.decided first (by simp [noted])).2 result same
      cases code.symm.trans codeless
  · intro untriggered
    cases refused : seen.refused with
    | some errno =>
      obtain ⟨-, executable, same⟩ := tells.refused errno refused
      exact absurd same (known.1 executable errno)
    | none =>
      obtain ⟨result, same, completed, -⟩ := tells.undecided refused untriggered
      exact ⟨result, same, completed, known.2 result same completed⟩

/-- Whether a child that finished in time is reported so.  No reason to kill was seen when its
end was seen.

* The run is completed with the child's code exactly if no reason is seen later either.
* That is so if both output pipes are at their end already.
* Otherwise the first reason that is seen while one of them is open decides. -/
theorem completed_after_reap_iff {job : Job} {before after : List Event} {pid : Pid}
    {status : ExitStatus} {s : State} {report : RunReport}
    (run : (State.fresh job).replay (before ++ .wait pid false (.ended status) :: after) = some s)
    (reported : s.report? = some report)
    (inTime : (account job.call.timeout before).triggers = []) :
    let seen := account job.call.timeout (before ++ .wait pid false (.ended status) :: after)
    (Completes status report.value ↔ seen.triggers = []) ∧
      ((account job.call.timeout before).ended = 2 → Completes status report.value) ∧
      ∀ first later, seen.triggers = first :: later → first.Brings report.value := by
  intro seen
  obtain ⟨t, ordered, later, ⟨blocks, -⟩ | ⟨-, forks, live, agrees, stage⟩⟩ := cut_at_reap run
  · cases blocks
  obtain ⟨plan, child, forked⟩ := forks.append (.wait pid false (.ended status) :: after)
  have tells : Tells seen report.value := by
    have agrees := account_agrees run
    rw [stage_of_report? reported] at agrees
    exact agrees (started_of_forked forked)
  have known : (Stage.reported report).Known status := by
    rw [← stage_of_report? reported]
    refine stage_induction_from (P := fun _ stage => stage.Known status) ordered ?_
      (fun _ _ _ _ before step => step.known before) later
    rw [stage]
    exact ⟨rfl, rfl, by simp [Live.reaped, (agrees.untouched inTime).1]⟩
  refine ⟨tells.completes_iff known, fun ended => ?_, fun first later noted => ?_⟩
  · have settled := agrees.settled inTime (Nat.le_of_eq ended.symm) status
    rw [← stage] at settled
    have done := (quiet_of_settled ordered settled later).2
    rwa [stage_of_report? reported] at done
  · exact (tells.decided first (by simp [noted])).1

/-- The time is up after the child has finished, and that is what is reported. -/
theorem lingering_child_is_stopped :
    ∃ s report result, (State.fresh lingeringJob).replay
        (lingeringStart ++ .wait 42 false (.ended (.exited 0)) :: lingeringEnd) = some s ∧
      s.report? = some report ∧ (account lingeringJob.call.timeout lingeringStart).triggers = [] ∧
      report.value = .ok result ∧ result.state = .timedOut ∧ result.exitCode = none := by
  refine ⟨_, _, _, rfl, rfl, rfl, rfl, ?_⟩
  exact ⟨rfl, rfl⟩

/-- Whoever holds the output lets go of it in time. -/
def releasedEnd : List Event :=
  [.clock 100000000, .token false, .act (.poll [4] [] 50), .read 4 4096 (.ok []),
    .act (.close 4), .clock 100001000]

/-- The child's code is reported although the output stayed open after the child had ended. -/
theorem released_child_completes :
    ∃ s report, (State.fresh lingeringJob).replay
        (lingeringStart ++ .wait 42 false (.ended (.exited 0)) :: releasedEnd) = some s ∧
      s.report? = some report ∧ (account lingeringJob.call.timeout lingeringStart).triggers = [] ∧
      Completes (.exited 0) report.value := by
  obtain ⟨s, report, run, reported⟩ : ∃ s report, (State.fresh lingeringJob).replay
      (lingeringStart ++ .wait 42 false (.ended (.exited 0)) :: releasedEnd) = some s ∧
        s.report? = some report := ⟨_, _, rfl, rfl⟩
  have inTime : (account lingeringJob.call.timeout lingeringStart).triggers = [] := rfl
  exact ⟨s, report, run, reported, inTime, (completed_after_reap_iff run reported inTime).1.mpr rfl⟩

end Run

end CueFront
