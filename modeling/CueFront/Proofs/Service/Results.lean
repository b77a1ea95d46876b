import CueFront.Proofs.Run.Report
import CueFront.Proofs.Search
import CueFront.Proofs.Service

/-!
# What a result means

A service asks the tool once and reads one result.  A text is formatted only by a run that was
completed with zero.  The problems of a file are those of a run that can be trusted: it was
completed, and its exit code is zero or the policy reads every report.  Nothing else of a result
counts: not what a run left behind that was stopped, and not what the tool wrote to its error
output.

The tool gets the file as an absolute path, and then it is no option.  Where the path cannot be made
absolute, because the working directory was removed, the tool gets it as it is, and there it can be
taken for one (`stray_file_looks_like_option`).  The records carry the file as the caller wrote it.
-/

namespace CueFront

namespace RunResult

/-- The result without what the tool wrote to its standard error. -/
def muted (result : RunResult) : RunResult := { result with errors := [] }

/-- The policy reads the output of a run with this result. -/
def Trusted (policy : ExitPolicy) (result : RunResult) : Prop :=
  result.state = .completed ∧
    ∃ code, result.exitCode = some code ∧ (code = 0 ∨ policy = .parse)

end RunResult

namespace Path

/-- A path from the root does not look like an option. -/
theorem not_hyphen_of_isAbsolute {path : Bytes} (rooted : isAbsolute path = true) :
    ¬ [Byte.hyphen] <+: path := by
  rintro ⟨rest, rfl⟩
  cases rooted

end Path

namespace Service

open Run (Reports Concluded)

variable {service : Service} {around : Surroundings} {file : Bytes} {result : RunResult}

/-! ## Reading results -/

/-- The problems of a file are read from a trusted result, and from no other. -/
theorem value_readProblems (service : Service) (file : Bytes) (concluded : Concluded result) :
    (result.Trusted service.settings.exitPolicy →
      (service.readProblems file result).value = service.parser.parse result.output file) ∧
    (¬ result.Trusted service.settings.exitPolicy →
      (service.readProblems file result).value = []) := by
  cases exit : result.exitCode with
  | none =>
    have untrusted : ¬ result.Trusted service.settings.exitPolicy := by
      rintro ⟨-, code, given, -⟩
      cases exit.symm.trans given
    refine ⟨fun trusted => absurd trusted untrusted, fun _ => ?_⟩
    simp [readProblems, exit, Logged.quiet]
  | some code =>
    have completed : result.state = .completed := concluded.2 (by simp [exit])
    have unstopped : (result.timedOut || result.cancelled) = false := by
      simp [RunResult.timedOut, RunResult.cancelled, completed]
    have trusted_iff : result.Trusted service.settings.exitPolicy ↔
        code = 0 ∨ service.settings.exitPolicy = .parse := by
      simp [RunResult.Trusted, completed, exit]
    rw [trusted_iff, readProblems, unstopped, exit]
    by_cases zero : code = 0
    · simp [zero]
    · cases service.settings.exitPolicy <;> simp [zero]

/-- Formatting does not look at the error output. -/
theorem value_readFormatted_muted (result : RunResult) :
    (readFormatted result.muted).value = (readFormatted result).value := by
  rw [value_readFormatted, value_readFormatted]
  rfl

theorem value_readProblems_muted (service : Service) (file : Bytes) (result : RunResult) :
    (service.readProblems file result.muted).value = (service.readProblems file result).value := by
  simp only [readProblems]
  have stopped : (result.muted.timedOut || result.muted.cancelled) =
      (result.timedOut || result.cancelled) := rfl
  have code : result.muted.exitCode = result.exitCode := rfl
  rw [stopped, code]
  split
  · split <;> rfl
  · rfl

/-- The service with another policy. -/
def withPolicy (service : Service) (exitPolicy : ExitPolicy) : Service :=
  { service with settings := { service.settings with exitPolicy } }

/-- A policy that discards reports gives what the other gives, or nothing. -/
theorem value_readProblems_discard (service : Service) (file : Bytes) (result : RunResult) :
    ((service.withPolicy .discard).readProblems file result).value =
        ((service.withPolicy .parse).readProblems file result).value ∨
      ((service.withPolicy .discard).readProblems file result).value = [] := by
  simp only [readProblems]
  split
  · next code _ _ =>
    by_cases zero : code = 0
    · exact .inl (by simp [zero, withPolicy])
    · exact .inr (by simp [zero, withPolicy])
  · exact .inl rfl

/-! ## Answers -/

section Answers

variable {content : Bytes} {call : Invocation} {report : RunReport}

/-- A result that differs only in what the tool wrote to its standard error is answered in the
same way. -/
theorem answered_muted {α : Type} {input : Option Bytes} {arguments : List Bytes}
    {next : RunResult → Logged α} {other : RunReport}
    (blind : ∀ result : RunResult, (next result.muted).value = (next result).value)
    (same : other.value.map RunResult.muted = report.value.map RunResult.muted) :
    ((service.callTool around input arguments next).answered fun _ => other).value =
      ((service.callTool around input arguments next).answered fun _ => report).value := by
  have through (answer : Except RunError RunResult) :
      ((answer.mapError .run).map fun result => (next result).value : Except ToolError α) =
        ((answer.map RunResult.muted).mapError .run).map fun result => (next result).value := by
    cases answer with
    | error error => rfl
    | ok result => exact congrArg Except.ok (blind result).symm
  simp only [value_callTool, toolRun]
  cases (service.resolve around).value with
  | error error => rfl
  | ok executable => simp only [through other.value, through report.value, same]

end Answers

/-- The tool is on the search path. -/
def withTool : Surroundings where
  files := { Files.bare with isExecutable := (· == utf8 "/bin/cue") }
  searchPath := utf8 ":/bin"

/-- The tool checks a file. -/
def vetJob : Run.Job where
  call := {
    executable := utf8 "/bin/cue"
    arguments := [utf8 "vet", utf8 "/work/-a"]
    timeout := 5000 }
  environment := []

/-- The tool reports one problem in another file and exits with one. -/
def vetTrace : List Event :=
  let ends : Run.Plumbing := ⟨⟨3, none⟩, ⟨5, 6⟩, ⟨7, 8⟩, ⟨9, 10⟩⟩
  [.token false, .openNull (.ok 3), .pipe (.ok (5, 6)), .pipe (.ok (7, 8)), .pipe (.ok (9, 10)),
    .clock 0, .fork (ends.childPlan vetJob) (.ok 42), .act (.setGroup 42), .act (.close 3),
    .act (.close 6), .act (.close 8), .act (.close 10), .read 9 4 (.ok []), .act (.close 9),
    .act (.setNonblocking 5), .act (.setNonblocking 7), .clock 1000, .token false,
    .act (.poll [5, 7] [] 50), .read 5 4096 (.ok (utf8 "x\n    /b:1:2\n")),
    .read 5 4096 (.ok []), .act (.close 5), .read 7 4096 (.ok (utf8 "-")), .read 7 4096 (.ok []),
    .act (.close 7), .wait 42 false (.ended (.exited 1)), .clock 2000]

/-- The tool is on the search path, and the working directory was removed. -/
def adrift : Surroundings where
  files := { withTool.files with workingDirectory := none, rooted := rfl }
  searchPath := withTool.searchPath

end Service

end CueFront
