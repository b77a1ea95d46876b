import CueFront.Messages
import CueFront.Proofs.Run.Outcome
import CueFront.Proofs.Run.Report
import CueFront.Proofs.Service

/-!
# Errors of a service

A service fails in two ways only.  The tool was not found, and then nothing was run; or the run
of the tool failed, and then a call to the system did.  That a run was stopped, that the tool
exited with some code or was killed, or that it closed its input, is a result and no error.

Faults are told apart by their code in two places: `Fault.toolUnavailable` asks whether the tool
cannot be used, and `Catalog.describe` looks for a text.  Both know the same three codes, and a
service comes to no others.
-/

namespace CueFront

namespace Errno

theorem utf8_ne_nil_of_mem_texts : ∀ entry ∈ texts, utf8 entry.2 ≠ [] := by decide +kernel

/-- Every error number has a text. -/
theorem message_ne_nil (errno : Errno) : errno.message ≠ [] := by
  rw [message]
  split
  · next text found =>
    obtain ⟨before, after, split_, -⟩ := List.lookup_eq_some_iff.mp found
    have known : (errno.code, text) ∈ texts := by simp [split_]
    exact utf8_ne_nil_of_mem_texts _ known
  · exact fun empty => by cases (List.append_eq_nil_iff.mp empty).1

end Errno

namespace Service

variable {service : Service} {around : Surroundings} {execute : Invocation → RunReport}

/-! ## The two kinds of errors -/

/-- The fault tells of a tool that was not found, with the code for where it was looked for. -/
def Unfound (service : Service) (fault : Fault) : Prop :=
  fault.category = .resolution ∧
    (fault.code = Fault.userPathNotFound ∧ service.settings.executablePath ≠ [] ∨
      fault.code = Fault.executableNotFound ∧ service.settings.executablePath = [])

/-- The fault tells of a tool that could not be run, and why. -/
def Unrunnable (fault : Fault) : Prop :=
  fault.category = .execution ∧ fault.code = Fault.executeError ∧ fault.cause ≠ []

theorem Unfound.toolUnavailable {fault : Fault} (unfound : service.Unfound fault) :
    fault.toolUnavailable = true := by
  rcases unfound.2 with ⟨code, -⟩ | ⟨code, -⟩ <;> simp [Fault.toolUnavailable, code]

theorem Unrunnable.toolUnavailable {fault : Fault} (unrunnable : Unrunnable fault) :
    fault.toolUnavailable = true := by
  simp [Fault.toolUnavailable, unrunnable.2.1]

/-- A tool that is not located fails as one that was not found. -/
theorem unfound_of_resolve {error : SearchError}
    (failed : (service.resolve around).value = .error error) : service.Unfound error.toFault := by
  rw [resolve, Search.resolve] at failed
  split at failed
  · next unset =>
    rw [Logged.note, Search.find] at failed
    split at failed
    · cases failed
    · cases failed
      exact ⟨rfl, .inr ⟨rfl, List.isEmpty_iff.mp unset⟩⟩
  · next set =>
    rw [Logged.quiet] at failed
    split at failed
    · cases failed
    · cases failed
      exact ⟨rfl, .inl ⟨rfl, by simpa using set⟩⟩

/-- Every error of a run is one of a tool that cannot be run. -/
theorem unrunnable_toFault (error : RunError) : Unrunnable error.toFault :=
  ⟨rfl, rfl, error.errno.message_ne_nil⟩

/-- The plan fails with one of the two kinds of errors. -/
def FailsWith {α : Type} (service : Service) (execute : Invocation → RunReport)
    (plan : Plan (Logged (Except ToolError α))) (fault : Fault) : Prop :=
  plan.call? = none ∧ service.Unfound fault ∨
    ∃ call failure, plan.call? = some call ∧ (execute call).value = .error failure ∧
      Unrunnable fault

theorem FailsWith.toolUnavailable {α : Type} {plan : Plan (Logged (Except ToolError α))}
    {fault : Fault} (fails : service.FailsWith execute plan fault) :
    fault.toolUnavailable = true := by
  rcases fails with ⟨-, unfound⟩ | ⟨_, _, -, -, unrunnable⟩
  · exact unfound.toolUnavailable
  · exact unrunnable.toolUnavailable

/-- A call of the tool fails because it was not located or because its run failed. -/
theorem failsWith_of_callTool {α : Type} {input : Option Bytes} {arguments : List Bytes}
    {next : RunResult → Logged α} {error : ToolError}
    (failed : ((service.callTool around input arguments next).answered execute).value =
      .error error) :
    service.FailsWith execute (service.callTool around input arguments next) error.toFault := by
  cases found : (service.resolve around).value with
  | error missing =>
    rw [value_callTool, toolRun, found] at failed
    cases failed
    refine .inl ⟨?_, unfound_of_resolve found⟩
    rw [callTool, found]
    rfl
  | ok executable =>
    have called := (call?_callTool input arguments next).mpr ⟨executable, found, rfl⟩
    rw [answered_callTool called] at failed
    cases ran : (execute _).value with
    | error failure =>
      rw [ran] at failed
      cases failed
      exact .inr ⟨_, failure, called, ran, unrunnable_toFault failure⟩
    | ok result =>
      rw [ran] at failed
      cases failed

end Service

/-! ## Stopped runs -/

namespace Run

/-- A run that was stopped first is a result, whatever fails after that. -/
theorem result_of_stopped {job : Job} {trace : List Event} {s : State} {report : RunReport}
    {plan : ChildPlan} {pid : Pid} (run : (State.fresh job).replay trace = some s)
    (reported : s.report? = some report) (forked : .fork plan (.ok pid) ∈ trace)
    (stopped : (account job.call.timeout trace).triggers.head? = some .raised ∨
      (account job.call.timeout trace).triggers.head? = some .late) :
    ∃ result, report.value = .ok result := by
  have agrees := account_agrees run
  rw [stage_of_report? reported] at agrees
  have tells := agrees (started_of_forked forked)
  cases value : report.value with
  | ok result => exact ⟨result, rfl⟩
  | error error =>
    rw [value] at tells
    rcases stopped with raised | late
    · exact absurd (tells.decided _ raised).1 id
    · exact absurd (tells.decided _ late).1 id

end Run

/-! ## The two classifications -/

namespace Catalog

/-- A fault that does not tell of an unusable tool is described by its own message. -/
theorem describe_of_usable (catalog : Catalog) {fault : Fault}
    (usable : fault.toolUnavailable = false) : catalog.describe fault = fault.message := by
  simp only [Fault.toolUnavailable, Bool.or_eq_false_iff] at usable
  obtain ⟨⟨notMissing, notWrong⟩, notFailed⟩ := usable
  simp only [describe, notMissing, notWrong, notFailed, Bool.false_eq_true, if_false]

/-- The description of an unusable tool depends on the code only. -/
theorem describe_of_unavailable {fault : Fault} (unavailable : fault.toolUnavailable = true) :
    ∃ entry ∈ builtIn.entries, ∀ other : Fault, other.code = fault.code →
      builtIn.describe other = entry.2 := by
  simp only [Fault.toolUnavailable, Bool.or_eq_true, beq_iff_eq] at unavailable
  rcases unavailable with (code | code) | code
  · refine ⟨builtIn.entries[0], List.getElem_mem _, fun other same => ?_⟩
    rw [describe, same, code]
    rfl
  · refine ⟨builtIn.entries[1], List.getElem_mem _, fun other same => ?_⟩
    rw [describe, same, code]
    rfl
  · refine ⟨builtIn.entries[2], List.getElem_mem _, fun other same => ?_⟩
    rw [describe, same, code]
    rfl

end Catalog

/-- The errors there are.

* An error of formatting or checking is one of two kinds: the tool was not found and nothing was
  run, or it was run and the run failed.  Its code is one of an unusable tool.
* A run fails only where a call to the system failed.  If it was stopped first, by the token or
  by its time, it does not fail at all.
* The built-in texts know the codes of an unusable tool and no others, and look at the code
  only. -/
theorem Service.errors_are_classified (service : Service) (around : Surroundings)
    (content file : Bytes) :
    (∀ execute error, ((service.format around content).answered execute).value = .error error →
      service.FailsWith execute (service.format around content) error.toFault ∧
      error.toFault.toolUnavailable = true) ∧
    (∀ execute error, ((service.check around file).answered execute).value = .error error →
      service.FailsWith execute (service.check around file) error.toFault ∧
      error.toFault.toolUnavailable = true) ∧
    (∀ job trace s report, (Run.State.fresh job).replay trace = some s →
      s.report? = some report →
      (∀ error, report.value = .error error → ∃ event ∈ trace, Run.CausedBy error event) ∧
      ∀ plan pid, .fork plan (.ok pid) ∈ trace →
        ((Run.account job.call.timeout trace).triggers.head? = some .raised ∨
          (Run.account job.call.timeout trace).triggers.head? = some .late) →
        ∃ result, report.value = .ok result) ∧
    ∀ fault : Fault,
      (fault.toolUnavailable = false → Catalog.builtIn.describe fault = fault.message) ∧
      (fault.toolUnavailable = true → ∃ entry ∈ Catalog.builtIn.entries,
        ∀ other : Fault, other.code = fault.code → Catalog.builtIn.describe other = entry.2) := by
  refine ⟨fun execute error failed => ?_, fun execute error failed => ?_,
    fun job trace s report run reported => ⟨fun error failed => ?_, fun plan pid forked => ?_⟩,
    fun fault => ⟨Catalog.describe_of_usable _, Catalog.describe_of_unavailable⟩⟩
  · have fails := failsWith_of_callTool failed
    exact ⟨fails, fails.toolUnavailable⟩
  · have fails := failsWith_of_callTool failed
    exact ⟨fails, fails.toolUnavailable⟩
  · exact Run.caused_of_error run reported failed
  · exact Run.result_of_stopped run reported forked

/-- The configured tool is not there. -/
def Service.misconfigured : Service where
  settings := { executablePath := utf8 "/opt/cue" }

/-- Nothing can be executed. -/
def withoutTool : Surroundings where
  files := { Files.bare with isRegular := fun _ => true }
  searchPath := utf8 "/bin"

/-- The missing tool is told of by its code, a run that was cancelled before its input could not
be written is a result, and a fault with an unknown code keeps its message. -/
theorem missing_tool_is_classified :
    let error : ToolError := .search (.notExecutable (utf8 "/opt/cue"))
    let checking := Service.misconfigured.check withoutTool (utf8 "a.cue")
    (checking.answered fun _ => .quiet (.error (.fork .noEntry))).value = .error error ∧
    error.toFault.toolUnavailable = true ∧
    Service.misconfigured.FailsWith (fun _ => .quiet (.error (.fork .noEntry))) checking
      error.toFault ∧
    (∃ s report result, (Run.State.fresh Run.shortJob).replay Run.cancelledTrace = some s ∧
      s.report? = some report ∧ report.value = .ok result) ∧
    Catalog.builtIn.describe error.toFault =
      utf8 "The configured cue executable does not exist or is not executable." ∧
    Catalog.builtIn.describe { category := .internal, message := utf8 "x" } = utf8 "x" := by
  intro error checking
  have failed : (checking.answered fun _ => .quiet (.error (.fork .noEntry))).value =
      .error error := rfl
  obtain ⟨-, classified, runs, described⟩ :=
    Service.errors_are_classified .misconfigured withoutTool [] (utf8 "a.cue")
  obtain ⟨fails, unavailable⟩ := classified _ error failed
  obtain ⟨s, report, run, reported⟩ : ∃ s report,
      (Run.State.fresh Run.shortJob).replay Run.cancelledTrace = some s ∧
        s.report? = some report := ⟨_, _, rfl, rfl⟩
  have forked : .fork (Run.shortPlumbing.childPlan Run.shortJob) (.ok 42) ∈ Run.cancelledTrace := by
    simp [Run.cancelledTrace]
  obtain ⟨result, same⟩ := (runs _ _ s report run reported).2 _ _ forked (.inl rfl)
  exact ⟨failed, unavailable, fails, ⟨s, report, result, run, reported, same⟩, rfl,
    (described _).1 rfl⟩

end CueFront
