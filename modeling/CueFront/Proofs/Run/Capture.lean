import CueFront.Proofs.Run.Launch
import CueFront.Proofs.Run.Outcome
import CueFront.Proofs.Run.Pipes

/-!
# Capture

The child speaks on two channels, and a run keeps what it hears on each.  `Channel.Captures`
says that it keeps exactly what was read from the pipe of that channel, and that it stops
listening only at the end of the pipe.  Every step of the stages keeps that, for both channels
at once, as no read of the one is a read of the other (`captured_step`).

`output_is_captured` puts this together with what pipes guarantee.  A run that completes has
heard all that was ever said, unless a read failed.  A run that was stopped has heard a prefix.
-/

namespace CueFront

namespace Run

/-- Where a child speaks. -/
inductive Channel where
  /-- Its standard output. -/
  | output
  /-- Its standard error. -/
  | errors
deriving DecidableEq, Repr

namespace Channel

/-- The end of the pipe that a run reads, while it is open. -/
def source : Channel → Live → Option Descriptor
  | .output => (·.output)
  | .errors => (·.errors)

/-- What a run has heard. -/
def text : Channel → Live → Bytes
  | .output => (·.outputText)
  | .errors => (·.errorText)

/-- What a result says that was heard. -/
def given : Channel → RunResult → Bytes
  | .output => (·.output)
  | .errors => (·.errors)

/-- Where the child writes. -/
def childEnd : Channel → ChildPlan → Descriptor
  | .output => (·.output)
  | .errors => (·.errors)

/-- The pipe of a channel. -/
def ends : Channel → Plumbing → PipeEnds
  | .output => (·.output)
  | .errors => (·.errors)

@[simp] theorem given_result (channel : Channel) (live : Live) :
    channel.given live.result = channel.text live := by
  cases channel <;> rfl

/-! ## What a run keeps -/

/-- A run keeps what was read from a pipe, and listens until the pipe is at its end. -/
structure Captures (channel : Channel) (pipe : Descriptor) (trace : List Event) (live : Live) :
    Prop where
  text : channel.text live = received pipe trace
  source : channel.source live = some pipe ∨
    channel.source live = none ∧ ∃ answer, .read pipe chunkSize answer ∈ trace ∧ endsPipe answer

namespace Captures

variable {channel : Channel} {pipe source : Descriptor} {trace : List Event} {event : Event}
  {live later : Live}

/-- Nothing new is heard, and nothing is forgotten. -/
theorem keep (captures : channel.Captures pipe trace live) (quiet : event.readFrom pipe = [])
    (text : channel.text later = channel.text live)
    (same : channel.source later = channel.source live) :
    channel.Captures pipe (trace ++ [event]) later where
  text := by rw [text, captures.text, received_append, received_singleton, quiet, List.append_nil]
  source := by
    rw [same]
    rcases captures.source with reading | ⟨closed, answer, seen, ends⟩
    · exact .inl reading
    · exact .inr ⟨closed, answer, List.mem_append_left _ seen, ends⟩

/-- Something new is heard. -/
theorem hear {bytes : Bytes} (captures : channel.Captures pipe trace live)
    (reading : channel.source live = some pipe)
    (text : channel.text later = channel.text live ++ bytes)
    (same : channel.source later = channel.source live) :
    channel.Captures pipe (trace ++ [.read pipe chunkSize (.ok bytes)]) later where
  text := by
    rw [text, captures.text, received_append, received_singleton, Event.readFrom, if_pos rfl]
  source := .inl (same.trans reading)

/-- The end of the pipe is found. -/
theorem stop {answer : Except Errno Bytes} (captures : channel.Captures pipe trace live)
    (ends : endsPipe answer) (text : channel.text later = channel.text live)
    (closed : channel.source later = none) :
    channel.Captures pipe (trace ++ [.read pipe chunkSize answer]) later where
  text := by
    have dry : (Event.read pipe chunkSize answer).readFrom pipe = [] := by
      cases answer with
      | ok bytes =>
        cases (ends : bytes = [])
        exact if_pos rfl
      | error errno => rfl
    rw [text, captures.text, received_append, received_singleton, dry, List.append_nil]
  source := .inr ⟨closed, answer, List.mem_append_right _ (List.mem_singleton.mpr rfl), ends⟩

theorem source_eq (captures : channel.Captures pipe trace live)
    (reading : channel.source live = some source) : source = pipe := by
  rcases captures.source with same | ⟨closed, -⟩
  · exact Option.some.inj (reading.symm.trans same)
  · cases reading.symm.trans closed

end Captures

end Channel

theorem readFrom_of_ne {source pipe : Descriptor} (other : source ≠ pipe) (count : Nat)
    (answer : Except Errno Bytes) : (Event.read source count answer).readFrom pipe = [] := by
  cases answer with
  | ok bytes => exact if_neg other
  | error errno => rfl

/-- Once the child is forked, a stage keeps what was read from the pipes of both channels. -/
def Stage.Captured (pipe : Channel → Descriptor) (trace : List Event) : Stage → Prop
  | .before _ _ => False
  | .starting live | .refused live _ | .passing live _ =>
    ∀ channel : Channel, channel.Captures (pipe channel) trace live
  | .reported report => ∀ result, report.value = .ok result → ∀ channel : Channel,
    channel.given result = received (pipe channel) trace ∧ (result.state = .completed →
      ∃ answer, .read (pipe channel) chunkSize answer ∈ trace ∧ endsPipe answer)

theorem Stage.Captured.keep {pipe : Channel → Descriptor} {trace : List Event} {stage : Stage}
    {event : Event} (captured : stage.Captured pipe trace)
    (quiet : ∀ channel, event.readFrom (pipe channel) = []) :
    stage.Captured pipe (trace ++ [event]) := by
  cases stage with
  | before job now => exact captured
  | starting live => exact fun channel => (captured channel).keep (quiet channel) rfl rfl
  | refused live errno => exact fun channel => (captured channel).keep (quiet channel) rfl rfl
  | passing live killing => exact fun channel => (captured channel).keep (quiet channel) rfl rfl
  | reported report =>
    intro result same channel
    obtain ⟨text, complete⟩ := captured result same channel
    refine ⟨?_, fun completed => ?_⟩
    · rw [text, received_append, received_singleton, quiet channel, List.append_nil]
    · obtain ⟨answer, seen, ends⟩ := complete completed
      exact ⟨answer, List.mem_append_left _ seen, ends⟩

theorem Stage.Captured.of_live {pipe : Channel → Descriptor} {trace : List Event} {stage : Stage}
    {live : Live} (captured : stage.Captured pipe trace) (alive : stage.live? = some live)
    (channel : Channel) : channel.Captures (pipe channel) trace live := by
  cases stage with
  | before | reported => cases alive
  | _ =>
    cases alive
    exact captured channel

/-- A run that completes was not killed. -/
theorem Agrees.unkilled_of_completed {timeout : Int} {seen : Account} {live : Live}
    (agrees : Agrees timeout seen live) (unfailed : live.writeFailure = none)
    (completed : live.result.state = .completed) : live.killedAt = none := by
  have decides := agrees.decides
  cases first : seen.triggers.head? with
  | none =>
    rw [first] at decides
    exact decides.2.2
  | some trigger =>
    rw [first] at decides
    cases trigger with
    | raised => simp [Live.result, decides.1] at completed
    | late => simp [Live.result, decides.1] at completed
    | unwritable errno => cases unfailed.symm.trans decides.2.1

theorem Live.result_of_report {live : Live} {ended : Int} {result : RunResult}
    (same : (live.report ended).value = .ok result) :
    live.writeFailure = none ∧ result = live.result := by
  cases failure : live.writeFailure with
  | none =>
    simp only [report, failure] at same
    exact ⟨rfl, (Except.ok.inj same).symm⟩
  | some errno => simp [report, failure] at same

section Steps

variable {pipe : Channel → Descriptor} {trace : List Event} {stage next : Stage} {event : Event}
  {timeout : Int} {seen : Account}

/-- At its end a run gives what it has kept.  It may leave its passes with open pipes, but only
after a kill, and then it is not completed. -/
theorem captured_finish {live : Live} (agrees : Agrees timeout seen live) (done : live.Done)
    (captured : ∀ channel : Channel, channel.Captures (pipe channel) trace live) (ended : Int) :
    (Stage.reported (live.report ended)).Captured pipe (trace ++ [.clock ended]) := by
  intro result same channel
  obtain ⟨unfailed, rfl⟩ := live.result_of_report same
  have kept : channel.Captures (pipe channel) (trace ++ [.clock ended]) live :=
    (captured channel).keep rfl rfl rfl
  obtain ⟨text, source⟩ := kept
  refine ⟨by rw [Channel.given_result, text], fun completed => ?_⟩
  have unkilled := agrees.unkilled_of_completed unfailed completed
  obtain ⟨-, ⟨noOutput, noErrors⟩ | killed⟩ := done
  · have closed : channel.source live = none := by
      cases channel with
      | output => exact noOutput
      | errors => exact noErrors
    rcases source with reading | ⟨-, ended⟩
    · cases closed.symm.trans reading
    · exact ended
  · simp [unkilled] at killed

/-- Every step keeps what was read, as long as the pipes of the channels and the pipe of the
report are different ones. -/
theorem captured_step (apart : pipe .output ≠ pipe .errors) (agrees : AgreesAt timeout seen stage)
    (captured : stage.Captured pipe trace) (step : Stage.Step stage event next)
    (reports : ∀ live, stage = .starting live → ∀ channel, event.readFrom (pipe channel) = []) :
    next.Captured pipe (trace ++ [event]) := by
  have quietly {live later : Live}
      (captured : ∀ channel : Channel, channel.Captures (pipe channel) trace live)
      (quiet : ∀ channel, event.readFrom (pipe channel) = [])
      (text : ∀ channel : Channel, channel.text later = channel.text live)
      (same : ∀ channel : Channel, channel.source later = channel.source live)
      (channel : Channel) : channel.Captures (pipe channel) (trace ++ [event]) later :=
    (captured channel).keep (quiet channel) (text channel) (same channel)
  cases step with
  | act => exact captured.keep fun _ => rfl
  | prepare | readStart | cancelledBeforeStart | giveUp | fork => exact absurd captured id
  | reportLater live => exact captured.keep (reports live rfl)
  | refuse => exact quietly captured (reports _ rfl) (fun _ => rfl) (fun _ => rfl)
  | @begin live =>
    obtain ⟨input, log, begun⟩ := live.begun_eq
    rw [begun]
    exact quietly captured (reports _ rfl) (fun channel => by cases channel <;> rfl)
      (fun channel => by cases channel <;> rfl)
  | reapLater => exact captured.keep fun _ => rfl
  | reapRefused => exact fun result same => (by cases same)
  | readOutput reading some_ =>
    cases (captured .output).source_eq reading
    intro channel
    cases channel with
    | output => exact (captured .output).hear reading (by simp [Channel.text, Live.outputText]) rfl
    | errors => exact (captured .errors).keep (readFrom_of_ne apart _ _) rfl rfl
  | outputLater reading pause =>
    exact quietly captured (fun _ => rfl) (fun _ => rfl) (fun _ => rfl)
  | outputEnds reading ends =>
    cases (captured .output).source_eq reading
    intro channel
    cases channel with
    | output => exact (captured .output).stop ends rfl rfl
    | errors => exact (captured .errors).keep (readFrom_of_ne apart _ _) rfl rfl
  | readErrors reading some_ =>
    cases (captured .errors).source_eq reading
    intro channel
    cases channel with
    | output => exact (captured .output).keep (readFrom_of_ne apart.symm _ _) rfl rfl
    | errors => exact (captured .errors).hear reading (by simp [Channel.text, Live.errorText]) rfl
  | errorsLater reading pause =>
    exact quietly captured (fun _ => rfl) (fun _ => rfl) (fun _ => rfl)
  | errorsEnd reading ends =>
    cases (captured .errors).source_eq reading
    intro channel
    cases channel with
    | output => exact (captured .output).keep (readFrom_of_ne apart.symm _ _) rfl rfl
    | errors => exact (captured .errors).stop ends rfl rfl
  | finish done ended => exact captured_finish agrees done captured ended
  | _ =>
    exact quietly captured (fun _ => rfl) (fun channel => (by cases channel <;> rfl))
      (fun channel => (by cases channel <;> rfl))

end Steps

/-! ## Whole runs -/

section Runs

variable {job : Job} {launch : Launch job} {rest : List Event} {s t : State}

/-- While no descriptor is held twice, the report is not read from a pipe of the child. -/
theorem report_apart {live : Live} {event : Event} (held : s.holds.Nodup)
    (starting : s.stage = .starting live) (step : s.next? event = some t) :
    ∀ descriptor ∈ live.openDescriptors, event.readFrom descriptor = [] := by
  induction s with
  | awaitExec waiting report =>
    cases starting
    obtain ⟨answer, rfl, rfl⟩ := Call.follow_read.mp step
    intro descriptor isOpen
    have apart : report ∉ live.openDescriptors := (List.nodup_cons.mp held).1
    refine readFrom_of_ne ?_ _ _
    rintro rfl
    exact apart isOpen
  | acting actions after ih =>
    cases actions with
    | nil => exact ih held starting step
    | cons action actions =>
      obtain ⟨rfl, rfl⟩ := Call.follow_act.mp step
      exact fun _ _ => rfl
  | _ => cases starting

/-- What a run knows does not change while its child starts. -/
theorem starting_of_launch {live : Live} (run : launch.state.replay rest = some s)
    (starting : s.stage = .starting live) : live = launch.live := by
  have leads := Launch.leadsTo run
  rwa [starting] at leads

/-- While no descriptor is given out twice, the pipes of a child are different ones. -/
theorem Launch.nodup_open (fresh : (launch.events.flatMap Event.opened).Nodup) :
    launch.live.openDescriptors.Nodup := by
  have held := nodup_holds launch.replay_events fresh
  exact (List.nodup_cons.mp (List.nodup_append.mp held).2.1).2

theorem Launch.apart (fresh : (launch.events.flatMap Event.opened).Nodup) :
    launch.ends.output.reading ≠ launch.ends.errors.reading := by
  have different := (List.nodup_cons.mp (launch.nodup_open fresh)).1
  rintro same
  exact different (by simp [Launch.live, Plumbing.live, same])

theorem Launch.received_events (launch : Launch job) (pipe : Descriptor) :
    received pipe launch.events = [] := by
  have made : launch.ends.input.made.readFrom pipe = [] := by
    unfold InputEnds.made
    split <;> rfl
  simp only [Launch.events, received, List.flatMap_cons, made]
  rfl

/-- A run keeps what was read from the pipes of both channels.  While the child starts, the pipe of
the report is read, which the run holds besides those of the channels. -/
theorem captured_of_launch (run : launch.state.replay rest = some s)
    (fresh : ((launch.events ++ rest).flatMap Event.opened).Nodup) :
    s.stage.Captured (fun channel => (channel.ends launch.ends).reading) rest := by
  induction rest using List.reverseRecOn generalizing s with
  | nil =>
    cases run
    exact fun channel => ⟨by cases channel <;> rfl, .inl (by cases channel <;> rfl)⟩
  | append_singleton earlier event ih =>
    obtain ⟨u, before, step⟩ := State.replay_concat.mp run
    have whole : (State.fresh job).replay (launch.events ++ earlier) = some u :=
      (launch.replay_append earlier).trans before
    rw [← List.append_assoc] at fresh
    have freshBefore := nodup_opened_left fresh
    have apart := launch.apart (nodup_opened_left freshBefore)
    refine captured_step apart (account_agrees whole) (ih before freshBefore)
      (next?_stage (ordered_of_replay launch.ordered_state before) step).2 ?_
    intro live starting channel
    have held := nodup_holds whole freshBefore
    have quiet := report_apart held starting step
    cases starting_of_launch before starting
    refine quiet _ ?_
    cases channel <;> simp [Launch.live, Plumbing.live, Live.openDescriptors, Channel.ends]

/-- A run without a child gives no output. -/
theorem silent_of_unforked {trace : List Event} {report : RunReport} {result : RunResult}
    (run : (State.fresh job).replay trace = some s) (unforked : ¬ Forks trace)
    (reported : s.report? = some report) (same : report.value = .ok result) (channel : Channel) :
    channel.given result = [] := by
  have known := stage_induction (P := fun trace stage => ¬ Forks trace →
    stage.live? = none ∧ ∀ report result, stage = .reported report → report.value = .ok result →
      channel.given result = []) (fun _ => ⟨rfl, nofun⟩) ?_ run
  · exact (known unforked).2 report result (stage_of_report? reported) same
  · intro earlier stage event next before step unforked
    obtain ⟨childless, silent⟩ := before fun forks => unforked (forks.append [event])
    cases step with
    | act => exact ⟨childless, silent⟩
    | fork job now ends pid =>
      exact absurd ⟨_, pid, List.mem_append_right _ (List.mem_singleton.mpr rfl)⟩ unforked
    | prepare => exact ⟨rfl, nofun⟩
    | readStart => exact ⟨rfl, nofun⟩
    | giveUp =>
      refine ⟨rfl, fun report result given same => ?_⟩
      cases given
      cases same
    | cancelledBeforeStart =>
      refine ⟨rfl, fun report result given same => ?_⟩
      cases given
      cases same
      cases channel <;> rfl
    | _ => cases childless

/-- Nothing that the child says is lost, told twice or mixed up.

* Without a child there is no output.
* At every moment a run has heard on each channel what was read from the pipe of that channel,
  in order; so it is a prefix of what was written to it.
* That is what the result gives in the end.
* If the run completed and no read of the pipe failed, the pipe was read to its end, and the
  result gives all that is ever written to it. -/
theorem output_is_captured {history : List Move}
    (run : (State.fresh job).replay (calls history) = some s) (lawful : Lawful history) :
    (¬ Forks (calls history) → ∀ report result, s.report? = some report →
      report.value = .ok result → ∀ channel : Channel, channel.given result = []) ∧
    ∀ plan pid, .fork plan (.ok pid) ∈ calls history →
      ∃ pipe : Channel → Descriptor, pipe .output ≠ pipe .errors ∧ ∀ channel : Channel,
        .pipe (.ok (pipe channel, channel.childEnd plan)) ∈ calls history ∧
        (∀ live, s.stage.live? = some live →
          channel.text live = received (pipe channel) (calls history) ∧
          channel.text live <+: written (pipe channel) history) ∧
        ∀ report result, s.report? = some report → report.value = .ok result →
          channel.given result = received (pipe channel) (calls history) ∧
          (∀ more, channel.given result <+: written (pipe channel) (history ++ more)) ∧
          (result.state = .completed →
            (∀ count errno, .read (pipe channel) count (.error errno) ∈ calls history →
              IsPause errno) →
            .read (pipe channel) chunkSize (.ok []) ∈ calls history ∧
            ∀ more, Lawful (history ++ more) →
              written (pipe channel) (history ++ more) = channel.given result) := by
  refine ⟨fun unforked report result reported same => silent_of_unforked run unforked reported same,
    fun plan pid forked => ?_⟩
  obtain ⟨launch, rest, cut, later⟩ := launch_of_forks run ⟨plan, pid, forked⟩
  obtain ⟨rfl, -⟩ := forks_once later (cut ▸ forked)
  have fresh := lawful.fresh
  rw [cut] at fresh
  have captured := captured_of_launch later fresh
  have heard (pipe : Descriptor) : received pipe rest = received pipe (calls history) := by
    rw [cut, received_append, launch.received_events, List.nil_append]
  refine ⟨fun channel => (channel.ends launch.ends).reading, ?_, fun channel =>
    ⟨?_, fun live alive => ?_, fun report result reported same => ?_⟩⟩
  · exact launch.apart (nodup_opened_left fresh)
  · rw [cut]
    cases channel <;> simp [Launch.events, PipeEnds.made, Channel.ends, Channel.childEnd,
      Plumbing.childPlan]
  · obtain ⟨text, -⟩ := captured.of_live alive channel
    rw [heard] at text
    exact ⟨text, text ▸ lawful.received_prefix _⟩
  · rw [stage_of_report? reported] at captured
    obtain ⟨text, complete⟩ := captured result same channel
    rw [heard] at text
    refine ⟨text, fun more => ?_, fun completed unfailed => ?_⟩
    · rw [text, written_append]
      exact (lawful.received_prefix _).trans (List.prefix_append ..)
    · obtain ⟨answer, seen, ends⟩ := complete completed
      have read : .read (channel.ends launch.ends).reading chunkSize answer ∈ calls history :=
        cut ▸ List.mem_append_right _ seen
      cases answer with
      | error errno => exact absurd (unfailed _ _ read) ends
      | ok bytes =>
        cases (ends : bytes = [])
        refine ⟨read, fun more lawfulMore => ?_⟩
        obtain ⟨before, after, rfl⟩ := List.append_of_mem (mem_calls.mp read)
        rw [text, lawful.received_of_end]
        rw [List.append_assoc, List.cons_append] at lawfulMore ⊢
        exact lawfulMore.written_of_end

end Runs

/-- A run without input. -/
def chattyJob : Job where
  call := { executable := [Byte.slash] }
  environment := []

/-- The descriptors it gets. -/
def chattyPlumbing : Plumbing := ⟨⟨3, none⟩, ⟨4, 5⟩, ⟨6, 7⟩, ⟨8, 9⟩⟩

/-- The child speaks on both channels while it is read, and once more before it ends. -/
def chattyHistory : List Move :=
  [.call (.token false), .call (.openNull (.ok 3)), .call (.pipe (.ok (4, 5))),
    .call (.pipe (.ok (6, 7))), .call (.pipe (.ok (8, 9))), .call (.clock 0),
    .call (.fork (chattyPlumbing.childPlan chattyJob) (.ok 42)), .call (.act (.setGroup 42)),
    .call (.act (.close 3)), .call (.act (.close 5)), .call (.act (.close 7)),
    .call (.act (.close 9)), .hangUp 8, .call (.read 8 4 (.ok [])), .call (.act (.close 8)),
    .call (.act (.setNonblocking 4)), .call (.act (.setNonblocking 6)), .put 4 [65, 66],
    .call (.clock 1000), .call (.token false), .call (.act (.poll [4, 6] [] 50)), .put 6 [97],
    .call (.read 4 4096 (.ok [65])), .call (.read 4 4096 (.error .interrupted)),
    .call (.read 4 4096 (.ok [66])), .call (.read 4 4096 (.error .wouldBlock)), .put 4 [67],
    .call (.read 6 4096 (.ok [97])), .call (.read 6 4096 (.error .wouldBlock)), .hangUp 6,
    .hangUp 4, .call (.wait 42 false (.ended (.exited 0))), .call (.clock 2000),
    .call (.token false), .call (.act (.poll [4, 6] [] 50)), .call (.read 4 4096 (.ok [67])),
    .call (.read 4 4096 (.ok [])), .call (.act (.close 4)), .call (.read 6 4096 (.ok [])),
    .call (.act (.close 6)), .call (.clock 3000)]

theorem chattyHistory_lawful : Lawful chattyHistory := ⟨by decide, by decide +kernel⟩

/-- What was written after the last read of a pass is not lost. -/
theorem chattyHistory_captured :
    ∃ s report result, (State.fresh chattyJob).replay (calls chattyHistory) = some s ∧
      Lawful chattyHistory ∧ s.report? = some report ∧ report.value = .ok result ∧
      result.state = .completed ∧ result.output = [65, 66, 67] ∧ result.errors = [97] := by
  obtain ⟨s, report, result, run, reported, same, completed⟩ : ∃ s report result,
      (State.fresh chattyJob).replay (calls chattyHistory) = some s ∧ s.report? = some report ∧
        report.value = .ok result ∧ result.state = .completed := by
    refine ⟨_, _, _, rfl, rfl, rfl, ?_⟩
    rfl
  have forked : .fork (chattyPlumbing.childPlan chattyJob) (.ok 42) ∈ calls chattyHistory :=
    mem_calls.mpr (by simp [chattyHistory])
  obtain ⟨pipe, -, channels⟩ := (output_is_captured run chattyHistory_lawful).2 _ _ forked
  have piped (channel : Channel) :
      pipe channel = match channel with
        | .output => 4
        | .errors => 6 := by
    have made := mem_calls.mp (channels channel).1
    cases channel <;> simpa [chattyHistory, Channel.childEnd, chattyPlumbing, Plumbing.childPlan]
      using made
  have gives (channel : Channel) :
      written (pipe channel) chattyHistory = channel.given result := by
    obtain ⟨-, -, complete⟩ := (channels channel).2.2 report result reported same
    refine (complete completed fun count errno read => ?_).2 [] ?_
    · have seen := mem_calls.mp read
      rw [piped] at seen
      cases channel <;> simp [chattyHistory] at seen <;> grind [IsPause]
    · exact chattyHistory_lawful
  refine ⟨s, report, result, run, chattyHistory_lawful, reported, same, completed, ?_, ?_⟩
  · have output := gives .output
    rw [piped] at output
    exact output.symm
  · have errors := gives .errors
    rw [piped] at errors
    exact errors.symm

end Run

end CueFront
