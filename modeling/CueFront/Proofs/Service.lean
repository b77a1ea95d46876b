import CueFront.Service

/-!
# What a service answers

A plan calls the tool once at most, so what it comes to is a function of the reports that the
tool's runs give.  `Service.toolRun` is the one call that formatting and checking have in common:
find the tool, run it, and keep why that could not be done.  What a service answers is read off
the result of that run, and its log has no part in it.
-/

namespace CueFront

namespace Plan

variable {α β : Type} {execute : Invocation → RunReport}

/-- The call of the tool that a plan makes, if it makes one. -/
def call? : Plan α → Option Invocation
  | .done _ => none
  | .run call _ => some call

/-- What a plan comes to when the tool's runs give these reports. -/
def answered (execute : Invocation → RunReport) (plan : Plan α) : α :=
  Id.run (plan.carryOut execute)

@[simp] theorem answered_done (value : α) : (Plan.done value).answered execute = value := rfl

@[simp] theorem answered_run (call : Invocation) (next : RunReport → α) :
    (Plan.run call next).answered execute = next (execute call) := rfl

@[simp] theorem answered_map (f : α → β) (plan : Plan α) :
    (plan.map f).answered execute = f (plan.answered execute) := by
  cases plan with
  | done value => rfl
  | run call next => rfl

end Plan

namespace Service

variable {service : Service} {around : Surroundings} {execute other : Invocation → RunReport}

/-- What comes of calling the tool: its result, or why it could not be found or run. -/
def toolRun (service : Service) (around : Surroundings) (execute : Invocation → RunReport)
    (input : Option Bytes) (arguments : List Bytes) : Except ToolError RunResult :=
  match (service.resolve around).value with
  | .error error => .error (.search error)
  | .ok executable =>
    (execute { executable, arguments, input, timeout := service.settings.timeout }).value.mapError
      .run

/-- The tool is called if it was located, with the timeout of the settings. -/
theorem call?_callTool {α : Type} {call : Invocation} (input : Option Bytes)
    (arguments : List Bytes) (next : RunResult → Logged α) :
    (service.callTool around input arguments next).call? = some call ↔
      ∃ executable, (service.resolve around).value = .ok executable ∧
        call = { executable, arguments, input, timeout := service.settings.timeout } := by
  simp only [callTool]
  cases (service.resolve around).value with
  | error error => simp [Plan.call?]
  | ok executable => simp [Plan.call?, eq_comm]

theorem value_callTool {α : Type} (input : Option Bytes) (arguments : List Bytes)
    (next : RunResult → Logged α) :
    ((service.callTool around input arguments next).answered execute).value =
      (service.toolRun around execute input arguments).map fun result => (next result).value := by
  simp only [callTool, toolRun]
  cases (service.resolve around).value with
  | error error => rfl
  | ok executable =>
    simp only [Plan.answered_run]
    split
    · next failed =>
      rw [failed]
      rfl
    · next succeeded =>
      rw [succeeded]
      rfl

/-- A call that was made is answered from its report alone. -/
theorem answered_callTool {α : Type} {input : Option Bytes} {arguments : List Bytes}
    {next : RunResult → Logged α} {call : Invocation}
    (called : (service.callTool around input arguments next).call? = some call) :
    ((service.callTool around input arguments next).answered execute).value =
      ((execute call).value.mapError .run).map fun result => (next result).value := by
  obtain ⟨executable, found, rfl⟩ := (call?_callTool ..).mp called
  rw [value_callTool, toolRun, found]

/-- Only what the runs come to counts, and not what they log. -/
theorem toolRun_congr (same : ∀ call, (other call).value = (execute call).value)
    (input : Option Bytes) (arguments : List Bytes) :
    service.toolRun around other input arguments =
      service.toolRun around execute input arguments := by
  simp only [toolRun, same]

theorem value_format (text : Bytes) :
    ((service.format around text).answered execute).value =
      (service.toolRun around execute (some text) [utf8 "fmt", utf8 "-"]).map fun result =>
        (readFormatted result).value :=
  value_callTool _ _ _

/-- A format call that is no error is answered from the result of its run. -/
theorem result_of_format {text : Bytes}
    (usable : ∀ error, ((service.format around text).answered execute).value ≠ .error error) :
    ∃ result, service.toolRun around execute (some text) [utf8 "fmt", utf8 "-"] = .ok result ∧
      ((service.format around text).answered execute).value =
        .ok (readFormatted result).value := by
  rw [value_format] at usable ⊢
  cases run : service.toolRun around execute (some text) [utf8 "fmt", utf8 "-"] with
  | error error =>
    rw [run] at usable
    exact absurd rfl (usable error)
  | ok result => exact ⟨result, rfl, rfl⟩

theorem value_check (file : Bytes) :
    ((service.check around file).answered execute).value =
      (service.toolRun around execute none
        [utf8 "vet", Search.absolute around.files file]).map fun result =>
          (service.readProblems file result).value :=
  value_callTool _ _ _

/-- A text is formatted exactly if the tool ran to its end and exited with zero. -/
theorem value_readFormatted (result : RunResult) :
    (readFormatted result).value =
      if result.state = .completed ∧ result.exitCode = some 0 then some result.output
      else none := by
  by_cases done : result.state = .completed ∧ result.exitCode = some 0
  · have succeeded : result.succeeded = true := by simp [RunResult.succeeded, done]
    rw [readFormatted, if_pos succeeded, if_pos done]
    rfl
  · have failed : ¬ result.succeeded = true := by simpa [RunResult.succeeded] using done
    rw [readFormatted, if_neg failed, if_neg done]
    rfl

end Service

end CueFront
