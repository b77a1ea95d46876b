import CueFront.Proofs.Run.Stage

/-!
# Reports

A run of a call can end with many reports, as the system answers.  `Reports` says which: those
at the end of some trace of the call.  Every such report is of one of two kinds.

* An error tells of a call that failed, and the failed call is an event of the trace
  (`caused_of_error`).  There are four such calls: making a descriptor, forking, executing the
  program, writing the input.  A look at the clock, the token or the child is none of them, and
  neither is a write to a child that has closed its input.
* A result is completed, timed out or cancelled, and only a completed one has an exit code
  (`Concluded`).
-/

namespace CueFront

namespace Run

/-- A run of the call can end with the report. -/
def Reports (call : Invocation) (report : RunReport) : Prop :=
  ∃ environment trace s, (State.fresh ⟨call, environment⟩).replay trace = some s ∧
    s.report? = some report

variable {job : Job} {trace : List Event} {s : State} {report : RunReport} {result : RunResult}
  {error : RunError}

/-! ## Errors -/

/-- Some event of the trace is the failed call that the error tells of. -/
def Caused (trace : List Event) (error : RunError) : Prop := ∃ event ∈ trace, CausedBy error event

theorem Caused.append {earlier : List Event} (caused : Caused earlier error) (event : Event) :
    Caused (earlier ++ [event]) error := by
  obtain ⟨cause, happened, causes⟩ := caused
  exact ⟨cause, List.mem_append_left _ happened, causes⟩

theorem caused_last {earlier : List Event} {event : Event} (causes : CausedBy error event) :
    Caused (earlier ++ [event]) error :=
  ⟨event, List.mem_append_right _ (List.mem_singleton.mpr rfl), causes⟩

/-- What a stage says of errors has a cause in the trace. -/
def Stage.Explained (trace : List Event) : Stage → Prop
  | .before _ _ => True
  | .starting live => live.writeFailure = none
  | .refused _ errno => ∀ executable, Caused trace (.start executable errno)
  | .passing live _ => ∀ errno, live.writeFailure = some errno → Caused trace (.write errno)
  | .reported report => ∀ error, report.value = .error error → Caused trace error

theorem Stage.Explained.append {earlier : List Event} {stage : Stage}
    (explained : stage.Explained earlier) (event : Event) :
    stage.Explained (earlier ++ [event]) := by
  cases stage with
  | before => trivial
  | starting => exact explained
  | refused => exact fun executable => (explained executable).append event
  | passing => exact fun errno failed => (explained errno failed).append event
  | reported => exact fun error failed => (explained error failed).append event

/-- Every failure of a stage comes from a failed call.  Most steps leave the failure of a write as
it was; the others are the four calls that may fail. -/
theorem explained_step {earlier : List Event} {stage next : Stage} {event : Event}
    (explained : stage.Explained earlier) (step : Stage.Step stage event next) :
    next.Explained (earlier ++ [event]) := by
  have kept := explained.append event
  cases step with
  | act | prepare | readStart | reportLater | reapLater => exact kept
  | cancelledBeforeStart => exact nofun
  | giveUp setup error caused =>
    rintro _ ⟨⟩
    exact caused_last caused
  | fork => rfl
  | refuse whole => exact fun executable => caused_last ⟨rfl, whole, rfl⟩
  | @begin live =>
    obtain ⟨input, log, begun⟩ := live.begun_eq
    rw [begun]
    intro errno failed
    cases explained.symm.trans failed
  | reapRefused live errno =>
    rintro _ ⟨⟩
    exact kept live.executable
  | writeFailed busy writing refused unshunned =>
    rintro _ ⟨⟩
    exact caused_last ⟨refused, unshunned⟩
  | @finish live =>
    intro error failed
    rw [Live.report] at failed
    split at failed
    · next errno known =>
      cases failed
      exact kept errno known
    · cases failed
  | _ => exact kept

/-- An error of a run tells of a call that failed. -/
theorem caused_of_error (run : (State.fresh job).replay trace = some s)
    (reported : s.report? = some report) (failed : report.value = .error error) :
    Caused trace error := by
  have explained : s.stage.Explained trace :=
    stage_induction (P := fun trace stage => stage.Explained trace) trivial
      (fun _ _ _ _ before step => explained_step before step) run
  rw [stage_of_report? reported] at explained
  exact explained error failed

/-! ## Results -/

/-- The result is one that a run can end with. -/
def Concluded (result : RunResult) : Prop :=
  (result.state = .completed ∨ result.state = .timedOut ∨ result.state = .cancelled) ∧
    (result.exitCode.isSome → result.state = .completed)

/-- While the passes go on a run is running or stopped, and it ends with a concluded one. -/
def Stage.Settling : Stage → Prop
  | .passing live _ => live.state = .running ∨ live.state = .timedOut ∨ live.state = .cancelled
  | .reported report => ∀ result, report.value = .ok result → Concluded result
  | _ => True

/-- The result of a run that has started is concluded. -/
theorem concluded_result {live : Live}
    (settling : live.state = .running ∨ live.state = .timedOut ∨ live.state = .cancelled) :
    Concluded live.result := by
  rcases settling with running | timedOut | cancelled
  · simp [Concluded, Live.result, running]
  · simp [Concluded, Live.result, timedOut]
  · simp [Concluded, Live.result, cancelled]

/-- Every step keeps a run settling on one of the results. -/
theorem settling_step {stage next : Stage} {event : Event} (settling : stage.Settling)
    (step : Stage.Step stage event next) : next.Settling := by
  cases step with
  | prepare | readStart | fork | reportLater | refuse | reapLater => trivial
  | cancelledBeforeStart =>
    rintro _ ⟨⟩
    exact ⟨.inr (.inr rfl), nofun⟩
  | giveUp | reapRefused => exact nofun
  | @begin live =>
    obtain ⟨input, log, begun⟩ := live.begun_eq
    rw [begun]
    exact .inl rfl
  | raised => exact .inr (.inr rfl)
  | late => exact .inr (.inl rfl)
  | @finish live =>
    intro result same
    rw [Live.report] at same
    split at same
    · cases same
    · cases same
      exact concluded_result settling
  | _ => exact settling

/-- A result of a run is concluded. -/
theorem concluded_of_result (run : (State.fresh job).replay trace = some s)
    (reported : s.report? = some report) (same : report.value = .ok result) : Concluded result := by
  have settling : s.stage.Settling :=
    stage_induction (P := fun _ stage => stage.Settling) trivial
      (fun _ _ _ _ before step => settling_step before step) run
  rw [stage_of_report? reported] at settling
  exact settling result same

theorem Reports.concluded {call : Invocation} (reports : Reports call report)
    (same : report.value = .ok result) : Concluded result := by
  obtain ⟨environment, trace, s, run, reported⟩ := reports
  exact concluded_of_result run reported same

end Run

end CueFront
