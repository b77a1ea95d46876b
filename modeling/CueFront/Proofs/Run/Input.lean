import CueFront.Proofs.Run.Capture
import CueFront.Proofs.Run.Muted

/-!
# The input of a child

A run writes what its child takes of the payload, from where the child left off.  `Feeds` says
that what the pipe took are the first bytes of the payload, as many as the run has counted, and
that the rest is what the run still has to send.  Every step of the stages keeps that
(`fed_step`).

The pipe is closed as soon as the payload is sent or a write fails for good, and after that no
write comes.  What a failed write does to the end of a run depends on why it failed.

* A child that closes its input early does the run no harm: it ends as if the child had taken
  everything (`spared_write`).  The same holds of every failed write after a kill.
* Any other failed write kills the child, and the run ends with that error (`failed_write`).

`input_is_delivered` says all of it for every run with a payload.
-/

namespace CueFront

/-- The bytes that a pipe takes in an event. -/
def Event.accepted (pipe : Descriptor) : Event → Bytes
  | .write sink offered (.ok count) => if sink = pipe then offered.take count else []
  | _ => []

/-- What a pipe has taken from a run. -/
def accepted (pipe : Descriptor) (trace : List Event) : Bytes :=
  trace.flatMap (·.accepted pipe)

@[simp] theorem accepted_append (pipe : Descriptor) (first second : List Event) :
    accepted pipe (first ++ second) = accepted pipe first ++ accepted pipe second :=
  List.flatMap_append

@[simp] theorem accepted_singleton (pipe : Descriptor) (event : Event) :
    accepted pipe [event] = event.accepted pipe :=
  List.flatMap_singleton ..

namespace Run

theorem accepted_of_refused {answer : Except Errno Nat} {errno : Errno}
    (refused : refusal? answer = some errno) (pipe sink : Descriptor) (offered : Bytes) :
    (Event.write sink offered answer).accepted pipe = [] := by
  cases answer with
  | ok count =>
    cases count with
    | zero => simp [Event.accepted]
    | succ count => cases refused
  | error errno => rfl

/-! ## What the pipe took -/

/-- The pipe took the first bytes of the payload, and the rest is still to be sent. -/
structure Feeds (payload : Bytes) (pipe : Descriptor) (trace : List Event) (live : Live) :
    Prop where
  accepted : accepted pipe trace = payload.take live.sent
  bounded : live.sent ≤ payload.length
  unsent : live.unsent = payload.drop live.sent
  input : ∀ descriptor, live.input = some descriptor → descriptor = pipe

namespace Feeds

variable {payload : Bytes} {pipe : Descriptor} {trace : List Event} {event : Event}
  {live later : Live}

/-- The run has counted what the pipe took. -/
theorem length_accepted (feeds : Feeds payload pipe trace live) :
    (CueFront.accepted pipe trace).length = live.sent := by
  rw [feeds.accepted, List.length_take, Nat.min_eq_left feeds.bounded]

theorem keep (feeds : Feeds payload pipe trace live) (quiet : event.accepted pipe = [])
    (sent : later.sent = live.sent) (unsent : later.unsent = live.unsent)
    (input : ∀ descriptor, later.input = some descriptor → live.input = some descriptor) :
    Feeds payload pipe (trace ++ [event]) later where
  accepted := by
    rw [accepted_append, accepted_singleton, quiet, List.append_nil, sent, feeds.accepted]
  bounded := sent ▸ feeds.bounded
  unsent := by rw [unsent, sent, feeds.unsent]
  input descriptor writing := feeds.input descriptor (input descriptor writing)

/-- A write takes the beginning of what is left to send. -/
theorem took (feeds : Feeds payload pipe trace live) (count : Nat) :
    Feeds payload pipe (trace ++ [.write pipe live.unsent (.ok count)]) (live.took count) where
  accepted := by
    have taken : (Event.write pipe live.unsent (.ok count)).accepted pipe =
        live.unsent.take count := if_pos rfl
    rw [accepted_append, accepted_singleton, taken, feeds.accepted, Live.took, List.take_add,
      ← feeds.unsent, ← List.take_eq_take_min]
  bounded := by
    have bounded := feeds.bounded
    have rest : live.unsent.length = payload.length - live.sent := by
      rw [feeds.unsent, List.length_drop]
    simp only [Live.took]
    omega
  unsent := by
    simp only [Live.took]
    rw [← List.drop_drop, ← feeds.unsent]
    rcases Nat.le_total count live.unsent.length with some_ | all
    · rw [Nat.min_eq_left some_]
    · rw [Nat.min_eq_right all, List.drop_length, List.drop_of_length_le all]
  input descriptor writingLater := by
    simp only [Live.took] at writingLater
    split at writingLater
    · cases writingLater
    · exact feeds.input descriptor writingLater

end Feeds

/-- Once the child is forked, a stage has fed it with the payload.  While the program runs the
pipe is open only if something is still to be sent. -/
def Stage.Fed (payload : Bytes) (pipe : Descriptor) (trace : List Event) : Stage → Prop
  | .before _ _ => False
  | .starting live | .refused live _ => Feeds payload pipe trace live
  | .passing live _ =>
    Feeds payload pipe trace live ∧ (live.input.isSome → live.unsent ≠ [])
  | .reported _ => True

section Steps

variable {payload : Bytes} {pipe : Descriptor} {trace : List Event} {stage next : Stage}
  {event : Event}

theorem Stage.Fed.past (fed : stage.Fed payload pipe trace) : stage.Past := by
  cases stage with
  | before job now => exact fed
  | _ => trivial

theorem Stage.Fed.keep (fed : stage.Fed payload pipe trace) (quiet : event.accepted pipe = []) :
    stage.Fed payload pipe (trace ++ [event]) := by
  cases stage with
  | before job now => exact fed
  | starting live => exact Feeds.keep fed quiet rfl rfl fun _ => id
  | refused live errno => exact Feeds.keep fed quiet rfl rfl fun _ => id
  | passing live killing => exact ⟨fed.1.keep quiet rfl rfl fun _ => id, fed.2⟩
  | reported report => trivial

/-- Nothing is taken, and the pipe is closed. -/
theorem Feeds.close {live later : Live} {killing : Bool} (feeds : Feeds payload pipe trace live)
    (quiet : event.accepted pipe = []) (sent : later.sent = live.sent)
    (unsent : later.unsent = live.unsent) (shut : later.input = none) :
    (Stage.passing later killing).Fed payload pipe (trace ++ [event]) :=
  ⟨feeds.keep quiet sent unsent (by simp [shut]), by simp [shut]⟩

theorem Stage.Fed.of_live {live : Live} (fed : stage.Fed payload pipe trace)
    (alive : stage.live? = some live) : Feeds payload pipe trace live := by
  cases stage with
  | before | reported => cases alive
  | passing current killing =>
    cases alive
    exact fed.1
  | _ =>
    cases alive
    exact fed

/-- Every step feeds the child a beginning of the payload, in order.  Only the write has something
to show: the pipe stays open only if it left something. -/
theorem fed_step (fed : stage.Fed payload pipe trace) (step : Stage.Step stage event next) :
    next.Fed payload pipe (trace ++ [event]) := by
  cases step with
  | act => exact fed.keep rfl
  | prepare | readStart | cancelledBeforeStart | giveUp | fork => exact absurd fed id
  | reportLater => exact fed.keep rfl
  | refuse => exact Feeds.keep fed rfl rfl rfl fun _ => id
  | @begin live =>
    unfold Live.begun
    dsimp only
    split
    · exact Feeds.close fed rfl rfl rfl rfl
    · next pending =>
      exact ⟨Feeds.keep fed rfl rfl rfl fun _ => id,
        fun _ empty => pending (List.isEmpty_iff.mpr empty)⟩
  | reapLater => exact fed.keep rfl
  | reapRefused | finish => trivial
  | @wrote live descriptor count writing some_ =>
    cases fed.1.input descriptor writing
    refine ⟨fed.1.took count, fun isOpen empty => ?_⟩
    simp only [Live.took] at isOpen empty
    simp [empty] at isOpen
  | writeShunned writing => exact fed.1.close rfl rfl rfl rfl
  | writeFailed busy writing refused =>
    exact fed.1.close (accepted_of_refused refused _ _ _) rfl rfl rfl
  | writeFailedLate writing refused =>
    exact fed.1.close (accepted_of_refused refused _ _ _) rfl rfl rfl
  | _ => exact ⟨fed.1.keep rfl rfl rfl fun _ => id, fed.2⟩

end Steps

/-! ## Runs with a payload -/

section Runs

variable {job : Job} {payload : Bytes} {reading writing : Descriptor}
  {trace whole more : List Event}
  {s : State} {live : Live}

theorem Launch.accepted_events (launch : Launch job) (pipe : Descriptor) :
    accepted pipe launch.events = [] := by
  have made : launch.ends.input.made.accepted pipe = [] := by
    unfold InputEnds.made
    split <;> rfl
  simp only [Launch.events, accepted, List.flatMap_cons, made]
  rfl

/-- The pipe that is made first is the one of the input. -/
theorem Launch.input_of_opens {launch : Launch job}
    (opens : [.token false, .pipe (.ok (reading, writing))] <+: launch.events ++ more) :
    launch.ends.input.writing = some writing := by
  have made : launch.ends.input.made = .pipe (.ok (reading, writing)) := by
    simp only [Launch.events, List.cons_append, List.cons_prefix_cons] at opens
    exact opens.2.1.symm
  unfold InputEnds.made at made
  split at made
  · next same =>
    cases made
    exact same
  · cases made

/-- From its launch on a run feeds its child. -/
theorem fed_of_launch {launch : Launch job} {rest : List Event}
    (given : job.call.input = some payload)
    (pipe : launch.ends.input.writing = some writing) (run : launch.state.replay rest = some s) :
    s.stage.Fed payload writing (launch.events ++ rest) := by
  refine stage_induction_from (P := fun rest stage =>
    stage.Fed payload writing (launch.events ++ rest)) launch.ordered_state ?_ ?_ run
  · rw [List.append_nil]
    exact ⟨launch.accepted_events writing, Nat.zero_le _,
      by simp [Launch.live, Plumbing.live, given],
      fun descriptor same => Option.some.inj (same.symm.trans pipe)⟩
  · intro earlier stage event next fed step
    rw [← List.append_assoc]
    exact fed_step fed step

/-- A run that has a process feeds it, if its first pipe is the one of the input. -/
theorem fed_of_live (given : job.call.input = some payload)
    (run : (State.fresh job).replay trace = some s) (begins : trace <+: whole)
    (opens : [.token false, .pipe (.ok (reading, writing))] <+: whole)
    (alive : s.stage.live? = some live) : s.stage.Fed payload writing trace := by
  obtain ⟨launch, rest, rfl, later⟩ := launch_of_forks run (forks_of_live run alive)
  obtain ⟨more, rfl⟩ := begins
  rw [List.append_assoc] at opens
  exact fed_of_launch given (launch.input_of_opens opens) later

end Runs

/-! ## Writes -/

/-- A write is the next call of a run whose input is open. -/
theorem write_next? {s t : State} {sink : Descriptor} {offered : Bytes}
    {answer : Except Errno Nat} (ordered : s.Ordered)
    (step : s.next? (.write sink offered answer) = some t) :
    ∃ live, s.stage = .passing live false ∧ live.input = some sink ∧ sink ∈ s.holds ∧
      live.unsent = offered ∧
      ∀ other, s.next? (.write sink offered other) = some (live.afterWrite sink other) := by
  generalize is : Event.write sink offered answer = event at step
  induction s with
  | write live descriptor =>
    obtain ⟨other, rfl, rfl⟩ := Call.follow_write.mp step
    cases is
    refine ⟨live, rfl, ordered.2, ?_, rfl, fun other => Call.follow_write.mpr ⟨other, rfl, rfl⟩⟩
    simp [State.holds, Live.openDescriptors, ordered.2]
  | acting actions after ih =>
    cases actions with
    | nil => exact ih ordered step
    | cons action actions =>
      obtain ⟨rfl, rfl⟩ := Call.follow_act.mp step
      cases is
  | openInput job =>
    subst is
    simp only [State.next?, State.call?, Option.bind_some] at step
    split at step <;> cases step
  | _ =>
    subst is
    cases step

namespace Live

variable {live : Live} {descriptor : Descriptor} {answer : Except Errno Nat} {errno : Errno}

/-- A write that is refused closes the input. -/
theorem afterWrite_refused (refused : refusal? answer = some errno) :
    live.afterWrite descriptor answer = live.closeInput descriptor (·.afterWriteFailure errno) := by
  cases answer with
  | ok count =>
    cases count with
    | zero =>
      cases refused
      rfl
    | succ count => cases refused
  | error other =>
    by_cases pause : IsPause other
    · cases (refusal?_pause pause).symm.trans refused
    · obtain ⟨uninterrupted, unblocked⟩ := not_or.mp pause
      cases (if_neg pause : refusal? (.error other) = some other).symm.trans refused
      simp only [afterWrite, beq_iff_eq, uninterrupted, unblocked, if_false]

/-- The input is closed and nothing else happens to the run. -/
def Spared (live : Live) (descriptor : Descriptor) (s : State) : Prop :=
  ∃ spared : Live, s = .acting [.close descriptor] spared.toDrainOutput ∧
    spared.muted = Live.muted { live with input := none }

/-- A write that takes all that is left closes the input and does no harm. -/
theorem spared_of_all {count : Nat} (some_ : 0 < count) (all : live.unsent.length ≤ count) :
    live.Spared descriptor (live.afterWrite descriptor (.ok count)) := by
  cases count with
  | zero => exact absurd some_ (Nat.lt_irrefl 0)
  | succ count =>
    have emptied : (live.unsent.drop (count + 1)).isEmpty = true := by simpa using all
    simp only [afterWrite, emptied, if_true, closeInput]
    exact ⟨_, rfl, rfl⟩

/-- A write that finds no reader, or fails after a kill, closes the input and does no harm. -/
theorem spared_of_refused (refused : refusal? answer = some errno)
    (harmless : errno = .brokenPipe ∨ live.killedAt.isSome) :
    live.Spared descriptor (live.afterWrite descriptor answer) := by
  rw [afterWrite_refused refused]
  simp only [closeInput, afterWriteFailure]
  split
  · exact ⟨_, rfl, rfl⟩
  · next unshunned =>
    have killed := harmless.resolve_left (by simpa using unshunned)
    rw [if_neg (by simpa [Option.isSome_iff_ne_none] using killed)]
    exact ⟨_, rfl, rfl⟩

/-- All runs that were spared at the same place are the same when muted. -/
theorem Spared.muted {s : State} (spared : live.Spared descriptor s) :
    s.Ordered ∧ s.stage.Shut ∧
      s.muted =
        .acting [.close descriptor] (Live.muted { live with input := none }).toDrainOutput := by
  obtain ⟨later, rfl, same⟩ := spared
  obtain ⟨ordered, stage⟩ := within_toDrainOutput later
  have shut : later.input = none := congrArg Live.input same
  refine ⟨ordered, ?_, ?_⟩
  · show later.toDrainOutput.stage.Shut
    rw [stage]
    exact shut
  · rw [← same, muted_toDrainOutput]
    rfl

/-- Two states that were spared the same go on alike. -/
theorem Spared.replay {s t u : State} {trace : List Event} (first : live.Spared descriptor s)
    (second : live.Spared descriptor t) (run : s.replay trace = some u) :
    ∃ v, t.replay trace = some v ∧ v.report?.map (·.value) = u.report?.map (·.value) := by
  obtain ⟨ordered, shut, same⟩ := first.muted
  obtain ⟨otherOrdered, otherShut, otherSame⟩ := second.muted
  exact replay_muted ordered shut otherOrdered otherShut (same.trans otherSame.symm) run

/-- A write that fails otherwise closes the input and kills the group. -/
theorem afterWrite_failed (refused : refusal? answer = some errno)
    (unshunned : errno ≠ .brokenPipe) (unkilled : live.killedAt = none) :
    live.afterWrite descriptor answer =
      .acting [.close descriptor] (.kill (live.failed errno) (.group live.pid) .drain) := by
  have noted : (errno == Errno.brokenPipe) = false := beq_eq_false_iff_ne.mpr unshunned
  rw [afterWrite_refused refused]
  simp only [closeInput, afterWriteFailure, noted, Bool.false_eq_true, if_false, unkilled,
    Option.isNone_none, if_true]
  rfl

end Live

/-! ## Kills -/

/-- A kill was sent. -/
def Kills (trace : List Event) : Prop := ∃ target delivered, .kill target delivered ∈ trace

/-- Whether an event is a kill. -/
def isKill : Event → Bool
  | .kill _ _ => true
  | _ => false

theorem kills_concat {trace : List Event} {event : Event} :
    Kills (trace ++ [event]) ↔ Kills trace ∨ isKill event = true := by
  have last : (∃ target delivered, Event.kill target delivered = event) ↔ isKill event = true := by
    cases event <;> simp [isKill]
  simp only [Kills, List.mem_append, List.mem_singleton, exists_or, last]

/-- A run knows whether a kill was sent, or is being sent. -/
def Stage.KillNoted (trace : List Event) : Stage → Prop
  | .before _ _ => ¬ Kills trace
  | .starting live | .refused live _ => live.killedAt = none ∧ ¬ Kills trace
  | .passing live killing => live.killedAt.isSome ↔ Kills trace ∨ killing = true
  | .reported _ => True

theorem Stage.KillNoted.keep {trace : List Event} {stage : Stage} {event : Event}
    (noted : stage.KillNoted trace) (other : isKill event = false) :
    stage.KillNoted (trace ++ [event]) := by
  cases stage with
  | reported report => trivial
  | _ => simpa [KillNoted, kills_concat, other] using noted

theorem killNoted_step {trace : List Event} {stage next : Stage} {event : Event}
    (noted : stage.KillNoted trace) (step : Stage.Step stage event next) :
    next.KillNoted (trace ++ [event]) := by
  cases step with
  | act => exact noted.keep rfl
  | prepare setup =>
    refine noted.keep ?_
    cases event with
    | kill => exact absurd setup id
    | _ => rfl
  | readStart => exact noted.keep rfl
  | fork => exact ⟨rfl, noted.keep rfl⟩
  | cancelledBeforeStart | giveUp | reapRefused | finish => trivial
  | raised | late | writeFailed => exact ⟨fun _ => .inr rfl, fun _ => rfl⟩
  | killMissed | killGroup | killChild =>
    exact ⟨fun _ => .inl (kills_concat.mpr (.inr rfl)), fun _ => noted.mpr (.inr rfl)⟩
  | @begin live =>
    obtain ⟨input, log, begun⟩ := live.begun_eq
    simp [begun, Stage.KillNoted, kills_concat, isKill, noted.1, noted.2]
  | reportLater | refuse | reapLater => exact ⟨noted.1, noted.keep rfl |>.2⟩
  | _ => exact noted.keep rfl

/-- A run notes the time of a kill exactly if a kill was sent. -/
theorem kills_iff {job : Job} {trace : List Event} {s : State} {live : Live}
    (run : (State.fresh job).replay trace = some s) (passing : s.stage = .passing live false) :
    live.killedAt.isSome ↔ Kills trace := by
  have noted := stage_induction (P := fun trace stage => stage.KillNoted trace)
    (by simp [Stage.KillNoted, Kills]) (fun _ _ _ _ before step => killNoted_step before step) run
  rw [passing] at noted
  simpa [Stage.KillNoted] using noted

/-- The input could not be written, and that decides how the run ends. -/
def Stage.Failed (errno : Errno) : Stage → Prop
  | .passing live _ => live.writeFailure = some errno ∧ live.killedAt.isSome
  | .reported report => report.value = .error (.write errno)
  | _ => False

/-- The failure of a write stays until the run reports it. -/
theorem failed_step {errno : Errno} {stage next : Stage} {event : Event}
    (failed : stage.Failed errno) (step : Stage.Step stage event next) : next.Failed errno := by
  have decided {live : Live} (failed : live.writeFailure = some errno ∧ live.killedAt.isSome) :
      live.killedAt ≠ none := Option.isSome_iff_ne_none.mp failed.2
  cases step with
  | act => exact failed
  | prepare | readStart | cancelledBeforeStart | giveUp | fork => exact absurd failed id
  | reportLater | refuse | begin | reapLater | reapRefused => exact absurd failed id
  | raised busy unkilled => exact absurd unkilled (decided failed)
  | late busy unkilled => exact absurd unkilled (decided failed)
  | writeFailed busy writing refused unshunned unkilled => exact absurd unkilled (decided failed)
  | finish done ended => simp [Stage.Failed, Live.report, failed.1]
  | _ => exact failed

/-- The events after a write that kills the child, and the end of the run.  The trace may break off
after any of the next events: the close, the kill of the group and, if nobody got that one, the kill
of the child. -/
theorem failed_end {killed : Live} {descriptor : Descriptor} {errno : Errno} {trace : List Event}
    {s : State}
    (ordered : (State.acting [.close descriptor] (.kill killed (.group killed.pid) .drain)).Ordered)
    (failed : (Stage.passing killed true).Failed errno)
    (run : (State.acting [.close descriptor] (.kill killed (.group killed.pid) .drain)).replay
      trace = some s) :
    (∃ delivered hit, trace.take (bif delivered then 2 else 3) <+:
      [.act (.close descriptor), .kill (.group killed.pid) delivered,
        .kill (.process killed.pid) hit]) ∧
      ∀ report, s.report? = some report → Kills trace ∧ report.value = .error (.write errno) ∧
        (RunError.write errno).toFault.code = Fault.executeError := by
  have value (report : RunReport) (reported : s.report? = some report) :
      report.value = .error (.write errno) := by
    have last := stage_induction_from (P := fun _ stage => stage.Failed errno) ordered failed
      (fun _ _ _ _ before step => failed_step before step) run
    rwa [stage_of_report? reported] at last
  rcases State.replay_of_call rfl run with ⟨rfl, rfl⟩ | ⟨event, later, u, rfl, step, run⟩
  · exact ⟨⟨true, true, List.nil_prefix⟩, fun report reported => by cases reported⟩
  obtain ⟨rfl, rfl⟩ := Call.follow_act.mp step
  rcases State.replay_of_call rfl run with ⟨rfl, rfl⟩ | ⟨event, later, u, rfl, step, run⟩
  · exact ⟨⟨true, true, by simp⟩, fun report reported => by cases reported⟩
  obtain ⟨delivered, rfl, rfl⟩ := Call.follow_kill.mp step
  have kills : Kills (.act (.close descriptor) :: .kill (.group killed.pid) delivered :: later) :=
    ⟨.group killed.pid, delivered, by simp⟩
  refine ⟨?_, fun report reported => ⟨kills, value report reported, rfl⟩⟩
  cases delivered with
  | true => exact ⟨true, true, by simp⟩
  | false =>
    rcases State.replay_of_call rfl run with ⟨rfl, rfl⟩ | ⟨event, later, u, rfl, step, run⟩
    · exact ⟨false, true, by simp⟩
    · obtain ⟨hit, rfl, rfl⟩ := Call.follow_kill.mp step
      exact ⟨false, hit, by simp⟩

/-! ## Passes -/

/-- After the fork a run reads the clock with nothing half done. -/
theorem clock_next? {s t : State} {now : Int} (ordered : s.Ordered)
    (past : s.stage.Past) (step : s.next? (.clock now) = some t) :
    ∃ live, s.stage = .passing live false ∧ s.holds = live.openDescriptors := by
  generalize is : Event.clock now = event at step
  induction s with
  | clock live => exact ⟨live, rfl, rfl⟩
  | readEnd live => exact ⟨live, rfl, rfl⟩
  | acting actions after ih =>
    cases actions with
    | nil => exact ih ordered past step
    | cons action actions =>
      obtain ⟨rfl, rfl⟩ := Call.follow_act.mp step
      cases is
  | fresh | openInput | openOutput | openErrors | openReport | readStart | fork =>
    exact absurd past id
  | _ =>
    subst is
    cases step

/-- Without anything to send, the pipe is closed before the first pass. -/
theorem closed_before_pass {job : Job} {launch : Launch job} {rest : List Event} {s t : State}
    {writing : Descriptor} {now : Int} (given : job.call.input = some [])
    (pipe : launch.ends.input.writing = some writing) (run : launch.state.replay rest = some s)
    (fresh : ((launch.events ++ rest).flatMap Event.opened).Nodup)
    (step : s.next? (.clock now) = some t) :
    .act (.close writing) ∈ launch.events ++ rest := by
  have fed := fed_of_launch given pipe run
  obtain ⟨live, passing, held⟩ :=
    clock_next? (ordered_of_replay launch.ordered_state run) fed.past step
  have captured := captured_of_launch run fresh
  rw [passing] at fed captured
  have shut : live.input = none := by
    by_contra isOpen
    exact fed.2 (Option.isSome_iff_ne_none.mpr isOpen) (by rw [fed.1.unsent, List.drop_nil])
  have balanced := balance ((launch.replay_append rest).trans run)
  rw [held] at balanced
  have opened : writing ∈ (launch.events ++ rest).flatMap Event.opened :=
    List.mem_flatMap.mpr ⟨launch.ends.input.made, by simp [Launch.events],
      by simp [InputEnds.made, pipe, Event.opened]⟩
  rcases List.mem_append.mp (balanced.mem_iff.mpr opened) with closed | isOpen
  · exact mem_closed.mp closed
  · have different := launch.nodup_open (nodup_opened_left fresh)
    have output := (captured .output).source
    have errors := (captured .errors).source
    simp only [Launch.live, Plumbing.live, Live.openDescriptors, pipe] at different
    simp only [Channel.source, Channel.ends] at output errors
    simp only [Live.openDescriptors, shut] at isOpen
    grind

/-! ## A write and what follows -/

/-- A run is about to write. -/
structure WritesAt (job : Job) (payload : Bytes) (pipe : Descriptor) (before : List Event)
    (u : State) (live : Live) : Prop where
  run : (State.fresh job).replay before = some u
  passing : u.stage = .passing live false
  held : pipe ∈ u.holds
  feeds : Feeds payload pipe before live
  pending : live.unsent ≠ []
  next : ∀ answer, u.next? (.write pipe live.unsent answer) = some (live.afterWrite pipe answer)

section Writes

variable {job : Job} {payload offered : Bytes} {pipe sink : Descriptor}
  {before after : List Event} {s u : State} {live : Live} {answer : Except Errno Nat}
  {errno : Errno}

/-- A write in a trace is one of the run, to the pipe of its input, and offers all that is left to
send. -/
theorem writesAt_of_split {reading : Descriptor} (given : job.call.input = some payload)
    (run : (State.fresh job).replay (before ++ .write sink offered answer :: after) = some s)
    (opens : [.token false, .pipe (.ok (reading, pipe))] <+:
      before ++ .write sink offered answer :: after) :
    ∃ u live, WritesAt job payload pipe before u live ∧ sink = pipe ∧ offered = live.unsent ∧
      (live.afterWrite pipe answer).replay after = some s := by
  obtain ⟨u, v, first, step, later⟩ := State.replay_split.mp run
  have ordered := ordered_of_replay (State.ordered_fresh job) first
  obtain ⟨live, passing, writing, held, rfl, next⟩ := write_next? ordered step
  have fed : u.stage.Fed payload pipe before :=
    fed_of_live given first (List.prefix_append ..) opens (by rw [passing]; rfl)
  rw [passing] at fed
  obtain ⟨feeds, pending⟩ := fed
  obtain rfl := feeds.input sink writing
  cases step.symm.trans (next answer)
  exact ⟨u, live, ⟨first, passing, held, feeds, pending (by simp [writing]), next⟩, rfl, rfl, later⟩

namespace WritesAt

/-- What is offered is the payload without what was accepted. -/
theorem offers (writes : WritesAt job payload pipe before u live) :
    live.unsent = payload.drop (accepted pipe before).length := by
  rw [writes.feeds.length_accepted, writes.feeds.unsent]

/-- The pipe is closed as soon as all was taken or the write failed for good. -/
theorem closes (writes : WritesAt job payload pipe before u live)
    (ends : accepted pipe (before ++ [.write pipe live.unsent answer]) = payload ∨
      (refusal? answer).isSome)
    (later : (live.afterWrite pipe answer).replay after = some s) :
    ∀ next ∈ after.head?, next = .act (.close pipe) := by
  have closing : ∃ rest, live.afterWrite pipe answer = .acting [.close pipe] rest := by
    rcases ends with all | refused
    · rw [accepted_append, accepted_singleton, writes.feeds.accepted] at all
      have taken : (Event.write pipe live.unsent answer).accepted pipe = live.unsent := by
        have parts := all.trans (List.take_append_drop live.sent payload).symm
        exact (List.append_cancel_left parts).trans writes.feeds.unsent.symm
      cases answer with
      | ok count =>
        have whole : live.unsent.length ≤ count := by
          have lengths := congrArg List.length taken
          simp only [Event.accepted, if_true, List.length_take] at lengths
          omega
        have some_ := List.length_pos_iff.mpr writes.pending
        obtain ⟨spared, same, -⟩ := Live.spared_of_all (Nat.lt_of_lt_of_le some_ whole) whole
        exact ⟨_, same⟩
      | error errno => exact absurd taken.symm writes.pending
    · obtain ⟨errno, refused⟩ := Option.isSome_iff_exists.mp refused
      exact ⟨_, Live.afterWrite_refused refused⟩
  obtain ⟨rest, closing⟩ := closing
  rw [closing] at later
  rcases State.replay_of_call rfl later with ⟨rfl, -⟩ | ⟨event, rest, u, rfl, step, -⟩
  · exact fun next same => by cases same
  · obtain ⟨rfl, -⟩ := Call.follow_act.mp step
    exact fun next same => (Option.some.inj same).symm

/-- A write that fails because the child closed its input, or after a kill, changes nothing: the
run ends as if the child had taken everything. -/
theorem spared_write (writes : WritesAt job payload pipe before u live)
    (refused : refusal? answer = some errno) (harmless : errno = .brokenPipe ∨ Kills before)
    (later : (live.afterWrite pipe answer).replay after = some s) :
    ∃ t, (State.fresh job).replay
        (before ++ .write pipe live.unsent (.ok live.unsent.length) :: after) = some t ∧
      t.report?.map (·.value) = s.report?.map (·.value) := by
  have spared : live.Spared pipe (live.afterWrite pipe answer) :=
    Live.spared_of_refused refused
      (harmless.imp_right (kills_iff writes.run writes.passing).mpr)
  have taken : live.Spared pipe (live.afterWrite pipe (.ok live.unsent.length)) :=
    Live.spared_of_all (List.length_pos_iff.mpr writes.pending) (Nat.le_refl _)
  obtain ⟨t, goes, same⟩ := spared.replay taken later
  exact ⟨t, State.replay_split.mpr ⟨u, _, writes.run, writes.next _, goes⟩, same⟩

/-- Any other failed write kills the child, and the run ends with that error. -/
theorem failed_write (writes : WritesAt job payload pipe before u live)
    (refused : refusal? answer = some errno) (unshunned : errno ≠ .brokenPipe)
    (unkilled : ¬ Kills before) (later : (live.afterWrite pipe answer).replay after = some s) :
    ∃ plan pid, .fork plan (.ok pid) ∈ before ∧
      (∃ delivered hit, after.take (bif delivered then 2 else 3) <+:
        [.act (.close pipe), .kill (.group pid) delivered, .kill (.process pid) hit]) ∧
      ∀ report, s.report? = some report → Kills after ∧ report.value = .error (.write errno) ∧
        (RunError.write errno).toFault.code = Fault.executeError := by
  have alive : u.stage.live? = some live := by rw [writes.passing]; rfl
  obtain ⟨launch, rest, rfl, launched⟩ :=
    launch_of_forks writes.run (forks_of_live writes.run alive)
  have unnoted : live.killedAt = none := by
    by_contra noted
    exact unkilled ((kills_iff writes.run writes.passing).mp (Option.isSome_iff_ne_none.mpr noted))
  have ordered := (next?_stage (ordered_of_replay (State.ordered_fresh job) writes.run)
    (writes.next answer)).1
  rw [Live.afterWrite_failed refused unshunned unnoted] at ordered later
  have failed : (Stage.passing (live.failed errno) true).Failed errno := ⟨rfl, rfl⟩
  have ends := failed_end ordered failed later
  refine ⟨launch.ends.childPlan job, live.pid, ?_, ends⟩
  rw [pid_of_launch launched alive]
  simp [Launch.events]

end WritesAt

end Writes

/-- The payload reaches the child in order and from its beginning, and the pipe is closed.

* What the pipe took are the first bytes of the payload, as many as the run has counted.  The
  count never falls.
* Every write offers what was not taken yet, and none comes after the pipe was closed.  Once
  all is taken, or a write failed for good, the next event closes the pipe.
* A write that fails because the child closed its input does not change how the run ends, and
  neither does one that fails after a kill.  Any other failed write kills the child, and the
  run ends with that error.
* Without anything to send, the pipe is closed before the first pass.
* A run that is over has closed the pipe, however it ended. -/
theorem input_is_delivered {job : Job} {payload : Bytes} {reading writing : Descriptor}
    {trace : List Event} {s : State} (given : job.call.input = some payload)
    (run : (State.fresh job).replay trace = some s)
    (opens : [.token false, .pipe (.ok (reading, writing))] <+: trace)
    (fresh : (trace.flatMap Event.opened).Nodup) :
    (∀ live, s.stage.live? = some live →
      accepted writing trace = payload.take live.sent ∧ live.sent ≤ payload.length ∧
      ∀ more t later, s.replay more = some t → t.stage.live? = some later →
        live.sent ≤ later.sent) ∧
    (∀ before sink offered answer after, trace = before ++ .write sink offered answer :: after →
      sink = writing ∧ offered = payload.drop (accepted writing before).length ∧
      .act (.close writing) ∉ before ∧
      (accepted writing (before ++ [.write sink offered answer]) = payload ∨
        (refusal? answer).isSome → ∀ next ∈ after.head?, next = .act (.close writing)) ∧
      ∀ errno, refusal? answer = some errno →
        (errno = .brokenPipe ∨ Kills before →
          ∃ t, (State.fresh job).replay
              (before ++ .write sink offered (.ok offered.length) :: after) = some t ∧
            t.report?.map (·.value) = s.report?.map (·.value)) ∧
        (errno ≠ .brokenPipe → ¬ Kills before →
          ∃ plan pid, .fork plan (.ok pid) ∈ before ∧
            (∃ delivered hit, after.take (bif delivered then 2 else 3) <+:
              [.act (.close writing), .kill (.group pid) delivered, .kill (.process pid) hit]) ∧
            ∀ report, s.report? = some report → Kills after ∧
              report.value = .error (.write errno) ∧
              (RunError.write errno).toFault.code = Fault.executeError)) ∧
    (payload = [] → ∀ before now after, trace = before ++ .clock now :: after → Forks before →
      .act (.close writing) ∈ before) ∧
    ∀ report, s.report? = some report → .act (.close writing) ∈ trace := by
  refine ⟨fun live alive => ?_, fun before sink offered answer after split => ?_,
    fun empty before now after split forks => ?_, fun report reported => ?_⟩
  · have feeds := (fed_of_live given run List.prefix_rfl opens alive).of_live alive
    refine ⟨feeds.accepted, feeds.bounded, fun more t later goesOn aliveLater => ?_⟩
    have whole : (State.fresh job).replay (trace ++ more) = some t := by
      rw [State.replay_append, run]
      exact goesOn
    have feedsLater := (fed_of_live given whole List.prefix_rfl
      (opens.trans (List.prefix_append ..)) aliveLater).of_live aliveLater
    rw [← feeds.length_accepted, ← feedsLater.length_accepted, accepted_append, List.length_append]
    exact Nat.le_add_right ..
  · subst split
    obtain ⟨u, live, writes, rfl, rfl, later⟩ := writesAt_of_split given run opens
    exact ⟨rfl, writes.offers,
      unclosed_of_held writes.run (nodup_opened_left fresh) writes.held,
      fun ends => writes.closes ends later, fun errno refused =>
      ⟨fun harmless => writes.spared_write refused harmless later,
        fun unshunned unkilled => writes.failed_write refused unshunned unkilled later⟩⟩
  · subst split empty
    obtain ⟨u, v, first, step, -⟩ := State.replay_split.mp run
    obtain ⟨launch, rest, rfl, launched⟩ := launch_of_forks first forks
    rw [List.append_assoc] at opens
    exact closed_before_pass given (launch.input_of_opens opens) launched
      (nodup_opened_left fresh) step
  · have opened : writing ∈ trace.flatMap Event.opened :=
      List.mem_flatMap.mpr ⟨.pipe (.ok (reading, writing)), opens.subset (by simp),
        by simp [Event.opened]⟩
    exact closed_of_reported run reported opened

/-- The child takes one byte of two, then the pipe fails. -/
def unwritableTrace : List Event :=
  [.token false, .pipe (.ok (3, 4)), .pipe (.ok (5, 6)), .pipe (.ok (7, 8)), .pipe (.ok (9, 10)),
    .clock 0, .fork (shortPlumbing.childPlan shortJob) (.ok 42), .act (.setGroup 42),
    .act (.close 3), .act (.close 6), .act (.close 8), .act (.close 10), .read 9 4 (.ok []),
    .act (.close 9), .act (.setNonblocking 5), .act (.setNonblocking 7), .act (.setNonblocking 4),
    .clock 1000, .token false, .act (.poll [5, 7] [4] 50), .write 4 [1, 2] (.ok 1),
    .write 4 [2] (.error .interrupted), .write 4 [2] (.error .wouldBlock),
    .read 5 4096 (.error .wouldBlock), .read 7 4096 (.error .wouldBlock), .wait 42 false .running,
    .clock 2000, .token false, .act (.poll [5, 7] [4] 50), .write 4 [2] (.error .inputOutput),
    .act (.close 4), .kill (.group 42) true, .read 5 4096 (.ok []), .act (.close 5),
    .read 7 4096 (.ok []), .act (.close 7), .wait 42 false (.ended (.signaled 9)), .clock 3000]

/-- The pipe has taken the first byte, and the run ends with the error. -/
theorem unwritableTrace_fails :
    shortJob.call.input = some [1, 2] ∧
      [.token false, .pipe (.ok (3, 4))] <+: unwritableTrace ∧
      (unwritableTrace.flatMap Event.opened).Nodup ∧
      ∃ s report, (State.fresh shortJob).replay unwritableTrace = some s ∧
        s.report? = some report ∧ report.value = .error (.write .inputOutput) := by
  obtain ⟨s, report, run, reported⟩ : ∃ s report,
      (State.fresh shortJob).replay unwritableTrace = some s ∧ s.report? = some report :=
    ⟨_, _, rfl, rfl⟩
  have opens : [.token false, .pipe (.ok (3, 4))] <+: unwritableTrace := ⟨_, rfl⟩
  have fresh : (unwritableTrace.flatMap Event.opened).Nodup := by decide
  obtain ⟨-, writes, -⟩ := input_is_delivered rfl run opens fresh
  obtain ⟨-, -, -, -, refused⟩ := writes (unwritableTrace.take 29) 4 [2] (.error .inputOutput)
    (unwritableTrace.drop 30) rfl
  have unkilled : ¬ Kills (unwritableTrace.take 29) := by simp [Kills, unwritableTrace]
  obtain ⟨plan, pid, -, -, ends⟩ := (refused .inputOutput rfl).2 (by decide) unkilled
  exact ⟨rfl, opens, fresh, s, report, run, reported, (ends report reported).2.1⟩

end Run

end CueFront
