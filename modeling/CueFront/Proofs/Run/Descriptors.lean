import CueFront.Proofs.Run.Stage

/-!
# Descriptors

A run holds the descriptors that it still has to close.  `State.holds` lists them, those that a
row of actions is about to close among them.  Every event keeps the balance: what is opened is
held, and what is closed is held no more (`balance_step`).  So at every moment what a run has
opened is what it has closed together with what it holds (`balance`).

* A run that is over holds nothing, so it has closed all it opened (`closed_of_reported`).
* While the system gives out no descriptor twice, a descriptor that is held was never closed
  (`unclosed_of_held`).
-/

namespace CueFront

/-- The descriptors that an event opens. -/
def Event.opened : Event → List Descriptor
  | .openNull (.ok descriptor) => [descriptor]
  | .pipe (.ok ends) => [ends.2, ends.1]
  | _ => []

/-- The descriptors that an action closes. -/
def Action.closed : Action → List Descriptor
  | .close descriptor => [descriptor]
  | _ => []

/-- The descriptors that an event closes. -/
def Event.closed : Event → List Descriptor
  | .act action => action.closed
  | _ => []

/-- A trace closes a descriptor by an action for it. -/
theorem mem_closed {descriptor : Descriptor} {trace : List Event} :
    descriptor ∈ trace.flatMap Event.closed ↔ .act (.close descriptor) ∈ trace := by
  rw [List.mem_flatMap]
  constructor
  · rintro ⟨event, happened, closes⟩
    cases event with
    | act action =>
      cases action with
      | close other =>
        cases List.mem_singleton.mp closes
        exact happened
      | _ => cases closes
    | _ => cases closes
  · exact fun happened => ⟨_, happened, List.mem_singleton.mpr rfl⟩

theorem nodup_opened_left {first second : List Event}
    (fresh : ((first ++ second).flatMap Event.opened).Nodup) :
    (first.flatMap Event.opened).Nodup := by
  rw [List.flatMap_append] at fresh
  exact (List.nodup_append.mp fresh).1

namespace Run

open scoped List

/-- The descriptors that a run still has to close. -/
def State.holds : State → List Descriptor
  | .fresh _ | .openInput _ | .finished _ => []
  | .openOutput _ input => input.all
  | .openErrors _ input output => output.all ++ input.all
  | .openReport _ input output errors => errors.all ++ output.all ++ input.all
  | .readStart _ ends | .fork _ ends _ => ends.all
  | .awaitExec live report => report :: live.openDescriptors
  | .reapFailed live _ | .clock live | .token live | .kill live _ _ | .write live _
  | .drainOutput live _ | .drainErrors live _ | .reap live | .lastWait live | .readEnd live =>
    live.openDescriptors
  | .acting actions after => actions.flatMap Action.closed ++ after.holds

@[simp] theorem State.holds_acting (actions : List Action) (after : State) :
    (State.acting actions after).holds = actions.flatMap Action.closed ++ after.holds := rfl

@[simp] theorem State.holds_awaitExec (live : Live) (report : Descriptor) :
    (State.awaitExec live report).holds = report :: live.openDescriptors := rfl

@[simp] theorem State.holds_finished (report : RunReport) :
    (State.finished report).holds = [] := rfl

@[simp] theorem closed_map_close (descriptors : List Descriptor) :
    (descriptors.map Action.close).flatMap Action.closed = descriptors := by
  induction descriptors with
  | nil => rfl
  | cons descriptor descriptors ih =>
    rw [List.map_cons, List.flatMap_cons, ih]
    rfl

@[simp] theorem closed_map_setNonblocking (descriptors : List Descriptor) :
    (descriptors.map Action.setNonblocking).flatMap Action.closed = [] := by
  simp [List.flatMap_map, Action.closed]

/-! ## Within a pass -/

namespace Live

variable {live : Live}

@[simp] theorem holds_startPass (live : Live) : live.startPass.holds = live.openDescriptors := by
  simp only [startPass, leave]
  split
  · rfl
  · split <;> rfl

@[simp] theorem holds_toReap (live : Live) : live.toReap.holds = live.openDescriptors := by
  simp only [toReap]
  split
  · exact holds_startPass live
  · rfl

@[simp] theorem holds_toDrainErrors (live : Live) :
    live.toDrainErrors.holds = live.openDescriptors := by
  simp only [toDrainErrors]
  split
  · rfl
  · exact holds_toReap live

@[simp] theorem holds_toDrainOutput (live : Live) :
    live.toDrainOutput.holds = live.openDescriptors := by
  simp only [toDrainOutput]
  split
  · rfl
  · exact holds_toDrainErrors live

@[simp] theorem holds_toWrite (live : Live) : live.toWrite.holds = live.openDescriptors := by
  simp only [toWrite]
  split
  · rfl
  · exact holds_toDrainOutput live

@[simp] theorem holds_toPoll (live : Live) : live.toPoll.holds = live.openDescriptors :=
  holds_toWrite live

theorem holds_afterClock (live : Live) (now : Int) :
    (live.afterClock now).holds = live.openDescriptors := by
  unfold afterClock leave
  dsimp only
  split
  · rfl
  · split
    · split <;> rfl
    · exact holds_toPoll { live with now }

theorem holds_afterToken (live : Live) (raised : Bool) :
    (live.afterToken raised).holds = live.openDescriptors := by
  simp only [afterToken]
  split
  · rfl
  · split
    · rfl
    · exact holds_toPoll live

theorem holds_afterKill (live : Live) (target : Target) (after : AfterKill) (delivered : Bool) :
    (live.afterKill target after delivered).holds = live.openDescriptors := by
  simp only [Live.afterKill]
  split
  · rfl
  · cases after with
    | poll => exact holds_toPoll live
    | drain => exact holds_toDrainOutput live
    | wait => rfl

theorem holds_afterReap (live : Live) (waited : Waited) :
    (live.afterReap waited).holds = live.openDescriptors := by
  cases waited with
  | ended status => exact holds_startPass _
  | running => exact holds_startPass live
  | failed errno =>
    simp only [afterReap]
    split
    · exact holds_startPass _
    · exact holds_startPass live

theorem holds_afterWriteFailure (live : Live) (errno : Errno) :
    (live.afterWriteFailure errno).holds = live.openDescriptors := by
  simp only [afterWriteFailure]
  split
  · exact holds_toDrainOutput _
  · split
    · rfl
    · exact holds_toDrainOutput live

/-! ## Where something is closed -/

theorem open_input {descriptor : Descriptor} (writing : live.input = some descriptor) :
    descriptor :: { live with input := none }.openDescriptors ~ live.openDescriptors := by
  simp only [openDescriptors, writing, Option.toList_some, Option.toList_none, List.append_nil]
  exact (List.perm_append_singleton descriptor _).symm

theorem open_output {descriptor : Descriptor} (reading : live.output = some descriptor) :
    descriptor :: { live with output := none }.openDescriptors ~ live.openDescriptors := by
  simp only [openDescriptors, reading, Option.toList_some, Option.toList_none, List.append_nil,
    List.append_assoc]
  exact List.perm_middle.symm

theorem open_errors {descriptor : Descriptor} (reading : live.errors = some descriptor) :
    descriptor :: { live with errors := none }.openDescriptors ~ live.openDescriptors := by
  simp only [openDescriptors, reading, Option.toList_some, Option.toList_none, List.nil_append,
    List.append_assoc]
  exact .refl _

/-- A descriptor that is about to be closed is still held. -/
theorem holds_closeInput {descriptor : Descriptor} {after : Live → State}
    (writing : live.input = some descriptor)
    (held : ∀ live, (after live).holds = live.openDescriptors) :
    (live.closeInput descriptor after).holds ~ live.openDescriptors := by
  simp only [closeInput, State.holds_acting, held]
  exact open_input writing

/-- A write closes nothing by itself: an input that is about to be closed counts as held. -/
theorem holds_afterWrite {descriptor : Descriptor} (writing : live.input = some descriptor)
    (answer : Except Errno Nat) :
    (live.afterWrite descriptor answer).holds ~ live.openDescriptors := by
  cases answer with
  | ok count =>
    cases count with
    | zero => exact holds_closeInput writing fun live => live.holds_afterWriteFailure .inputOutput
    | succ count =>
      simp only [afterWrite]
      split
      · exact holds_closeInput writing holds_toDrainOutput
      · exact .refl _
  | error errno =>
    simp only [afterWrite]
    split
    · exact .refl _
    · split
      · rw [holds_toDrainOutput]
      · exact holds_closeInput writing fun live => live.holds_afterWriteFailure errno

theorem holds_afterOutput {descriptor : Descriptor} (reading : live.output = some descriptor)
    (answer : Except Errno Bytes) :
    (live.afterOutput descriptor answer).holds ~ live.openDescriptors := by
  simp only [afterOutput]
  split
  · exact .refl _
  · exact .refl _
  · rw [holds_toDrainErrors]
  · simp only [State.holds_acting, holds_toDrainErrors]
    exact open_output reading

theorem holds_afterErrors {descriptor : Descriptor} (reading : live.errors = some descriptor)
    (answer : Except Errno Bytes) :
    (live.afterErrors descriptor answer).holds ~ live.openDescriptors := by
  simp only [afterErrors]
  split
  · exact .refl _
  · exact .refl _
  · rw [holds_toReap]
  · simp only [State.holds_acting, holds_toReap]
    exact open_errors reading

/-- Nothing is closed before the first pass: an input that is about to be closed counts as held. -/
theorem holds_begin (live : Live) : live.begin.holds ~ live.openDescriptors := by
  cases empty : live.unsent.isEmpty with
  | true =>
    simp only [begin, say, empty, if_true, State.holds_acting, holds_startPass, List.flatMap_append,
      closed_map_close, closed_map_setNonblocking, List.nil_append]
    simp only [openDescriptors, Option.toList_none, List.append_nil]
    exact List.perm_append_comm
  | false =>
    simp only [begin, say, empty, Bool.false_eq_true, if_false, State.holds_acting, holds_startPass,
      closed_map_setNonblocking, List.nil_append]
    exact .refl _

/-- The report pipe is held besides what is open, until it is closed. -/
theorem holds_afterReport (live : Live) (report : Descriptor) (answer : Except Errno Bytes) :
    (live.afterReport report answer).holds ~ report :: live.openDescriptors := by
  simp only [afterReport]
  split
  · exact .refl _
  · split
    · exact .refl _
    · exact (holds_begin live).cons report
  · exact (holds_begin live).cons report

@[simp] theorem holds_close (live : Live) (report : RunReport) :
    (live.close report).holds = live.openDescriptors := by
  simp only [close, State.holds_acting, State.holds_finished, closed_map_close, List.append_nil]

end Live

@[simp] theorem holds_abandon (descriptors : List Descriptor) (error : RunError) :
    (abandon descriptors error).holds = descriptors := by
  simp only [abandon, State.holds_acting, State.holds_finished, closed_map_close, List.append_nil]

/-! ## The balance -/

/-- A pipe adds what it opened.  Where there is none, all that was opened is about to be closed. -/
theorem holds_withPipe {opened : List Descriptor} {next : PipeEnds → State}
    (held : ∀ ends, (next ends).holds = ends.all ++ opened)
    (answer : Except Errno (Descriptor × Descriptor)) :
    (withPipe opened next answer).holds = (Event.pipe answer).opened ++ opened := by
  cases answer with
  | ok ends => exact held ⟨ends.1, ends.2⟩
  | error errno => exact holds_abandon opened _

/-- A forked run holds what it held before, and no more. -/
theorem holds_forked (job : Job) (ends : Plumbing) (started : Int) (pid : Pid) :
    (State.acting (.setGroup pid :: ends.childEnds.map .close)
      (.awaitExec (ends.live job started pid) ends.report.reading)).holds ~ ends.all := by
  simp only [State.holds_acting, State.holds_awaitExec, List.flatMap_cons, closed_map_close,
    Action.closed, Plumbing.childEnds, Plumbing.live, Live.openDescriptors, Plumbing.all,
    Option.toList_some, List.nil_append, List.cons_append]
  refine List.perm_iff_count.mpr fun descriptor => ?_
  simp only [List.count_cons, List.count_append, List.count_nil]
  omega

/-- What is opened is held, and what is closed is held no more.  A state that is about to close a
descriptor still holds it, so only the calls that make one and the closing actions change what is
held. -/
theorem balance_step {s t : State} {event : Event} (ordered : s.Ordered)
    (step : s.next? event = some t) :
    event.closed ++ t.holds ~ event.opened ++ s.holds := by
  induction s with
  | fresh job =>
    obtain ⟨raised, rfl, rfl⟩ := Call.follow_token.mp step
    cases raised <;> exact .refl _
  | openInput job =>
    simp only [State.next?, State.call?, Option.bind_some] at step
    cases given : job.call.input with
    | some text =>
      rw [given] at step
      obtain ⟨answer, rfl, rfl⟩ := Call.follow_pipe.mp step
      exact .of_eq (holds_withPipe (fun _ => rfl) answer)
    | none =>
      rw [given] at step
      obtain ⟨opened, rfl, rfl⟩ := Call.follow_openNull.mp step
      cases opened <;> exact .refl _
  | openOutput job input =>
    obtain ⟨answer, rfl, rfl⟩ := Call.follow_pipe.mp step
    exact .of_eq (holds_withPipe (fun _ => rfl) answer)
  | openErrors job input output =>
    obtain ⟨answer, rfl, rfl⟩ := Call.follow_pipe.mp step
    exact .of_eq (holds_withPipe (fun _ => rfl) answer)
  | openReport job input output errors =>
    obtain ⟨answer, rfl, rfl⟩ := Call.follow_pipe.mp step
    exact .of_eq (holds_withPipe (fun _ => rfl) answer)
  | readStart job ends =>
    obtain ⟨now, rfl, rfl⟩ := Call.follow_clock.mp step
    exact .refl _
  | fork job ends started =>
    obtain ⟨child, rfl, rfl⟩ := Call.follow_fork.mp step
    cases child with
    | error errno => exact .of_eq (holds_abandon ends.all _)
    | ok pid => exact holds_forked job ends started pid
  | awaitExec live report =>
    obtain ⟨answer, rfl, rfl⟩ := Call.follow_read.mp step
    exact live.holds_afterReport report answer
  | reapFailed live errno =>
    obtain ⟨waited, rfl, rfl⟩ := Call.follow_wait.mp step
    split
    · exact .refl _
    · exact .of_eq (live.holds_close _)
  | clock live =>
    obtain ⟨now, rfl, rfl⟩ := Call.follow_clock.mp step
    exact .of_eq (live.holds_afterClock now)
  | token live =>
    obtain ⟨raised, rfl, rfl⟩ := Call.follow_token.mp step
    exact .of_eq (live.holds_afterToken raised)
  | kill live target after =>
    obtain ⟨delivered, rfl, rfl⟩ := Call.follow_kill.mp step
    exact .of_eq (live.holds_afterKill target after delivered)
  | write live descriptor =>
    obtain ⟨answer, rfl, rfl⟩ := Call.follow_write.mp step
    exact Live.holds_afterWrite ordered.2 answer
  | drainOutput live descriptor =>
    obtain ⟨answer, rfl, rfl⟩ := Call.follow_read.mp step
    exact Live.holds_afterOutput ordered answer
  | drainErrors live descriptor =>
    obtain ⟨answer, rfl, rfl⟩ := Call.follow_read.mp step
    exact Live.holds_afterErrors ordered answer
  | reap live =>
    obtain ⟨waited, rfl, rfl⟩ := Call.follow_wait.mp step
    exact .of_eq (live.holds_afterReap waited)
  | lastWait live => exact absurd ordered id
  | readEnd live =>
    obtain ⟨ended, rfl, rfl⟩ := Call.follow_clock.mp step
    exact .of_eq (live.holds_close _)
  | acting actions after ih =>
    cases actions with
    | nil => exact ih ordered step
    | cons action actions =>
      obtain ⟨rfl, rfl⟩ := Call.follow_act.mp step
      simp only [State.holds_acting, List.flatMap_cons, List.append_assoc]
      exact .refl _
  | finished report => cases step

/-- What a run has opened is what it has closed and what it holds. -/
theorem balance {job : Job} {trace : List Event} {s : State}
    (run : (State.fresh job).replay trace = some s) :
    trace.flatMap Event.closed ++ s.holds ~ trace.flatMap Event.opened := by
  have both : s.Ordered ∧
      trace.flatMap Event.closed ++ s.holds ~ trace.flatMap Event.opened := by
    refine State.replay_induction (P := fun trace s => s.Ordered ∧
      trace.flatMap Event.closed ++ s.holds ~ trace.flatMap Event.opened)
      ⟨State.ordered_fresh job, .refl _⟩ ?_ run
    intro earlier u event t before step
    refine ⟨(next?_stage before.1 step).1, ?_⟩
    simp only [List.flatMap_append, List.flatMap_singleton, List.append_assoc]
    calc earlier.flatMap Event.closed ++ (event.closed ++ t.holds)
      _ ~ earlier.flatMap Event.closed ++ (event.opened ++ u.holds) :=
        (balance_step before.1 step).append_left _
      _ ~ event.opened ++ (earlier.flatMap Event.closed ++ u.holds) :=
        List.perm_append_comm_assoc ..
      _ ~ event.opened ++ earlier.flatMap Event.opened := before.2.append_left _
      _ ~ earlier.flatMap Event.opened ++ event.opened := List.perm_append_comm
  exact both.2

section Consequences

variable {job : Job} {trace : List Event} {s : State} {descriptor : Descriptor}

/-- A run that has given its report holds nothing. -/
theorem holds_of_reported {report : RunReport} (reported : s.report? = some report) :
    s.holds = [] := by
  induction s with
  | acting actions after ih =>
    cases actions with
    | nil => exact ih reported
    | cons action actions => cases reported
  | finished given => rfl
  | _ => cases reported

/-- A run that is over has closed all it opened. -/
theorem closed_of_reported {report : RunReport} (run : (State.fresh job).replay trace = some s)
    (reported : s.report? = some report) (opened : descriptor ∈ trace.flatMap Event.opened) :
    .act (.close descriptor) ∈ trace := by
  have balanced := balance run
  rw [holds_of_reported reported, List.append_nil] at balanced
  exact mem_closed.mp (balanced.mem_iff.mpr opened)

/-- While no descriptor is given out twice, a run holds none twice. -/
theorem nodup_holds (run : (State.fresh job).replay trace = some s)
    (fresh : (trace.flatMap Event.opened).Nodup) : s.holds.Nodup :=
  (List.nodup_append.mp ((balance run).nodup_iff.mpr fresh)).2.1

/-- While no descriptor is given out twice, one that is held was never closed. -/
theorem unclosed_of_held (run : (State.fresh job).replay trace = some s)
    (fresh : (trace.flatMap Event.opened).Nodup) (held : descriptor ∈ s.holds) :
    .act (.close descriptor) ∉ trace := by
  intro closed
  have apart := (List.nodup_append.mp ((balance run).nodup_iff.mpr fresh)).2.2
  exact apart descriptor (mem_closed.mpr closed) descriptor held rfl

end Consequences

end Run

end CueFront
