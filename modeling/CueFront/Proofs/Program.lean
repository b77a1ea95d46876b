import CueFront.Program
import CueFront.Proofs.Request
import CueFront.Proofs.Service

/-!
# How the program ends

The exit code and standard output are what a caller of the program relies on.  `ending` is the
table of the ways a command line can end: refused, with a tool that cannot be used, or with the
answer of the service.  There is no log in the table.  The program ends as the table says
(`visible_plan`), whatever its session is called and whatever is logged on the way, and
`exit_and_stdout` reads the table.

A level for the log is a setting like the others, but the table does not look at it.  So a
command line with `--verbose` ends as the one without it does (`verbose_is_invisible`).
-/

namespace CueFront

namespace Program

variable {around : Surroundings} {execute other : Invocation → RunReport} {stdin : Bytes}
  {arguments : List Bytes} {request : Request} {settings : Settings}

/-- What a caller of the program sees: the exit code and standard output. -/
def Output.visible (output : Output) : Nat × Bytes := (output.exit, output.stdout)

/-! ## The table -/

/-- The end of a format request that the service has answered. -/
def formattedEnd : Except ToolError (Option Bytes) → Nat × Bytes
  | .error _ => (exitTool, [])
  | .ok (some text) => (exitClean, text)
  | .ok none => (exitFindings, [])

/-- The end of a check request that the service has answered. -/
def checkedEnd (format : ReportFormat) :
    Except ToolError (List Diagnostics.Record) → Nat × Bytes
  | .error _ => (exitTool, [])
  | .ok records =>
    (if records.isEmpty then exitClean else exitFindings, Session.reportText format records)

/-- The end of a request that can be carried out. -/
def requestEnd (around : Surroundings) (execute : Invocation → RunReport) (stdin : Bytes)
    (request : Request) (settings : Settings) : Nat × Bytes :=
  let service : Service := { settings }
  match request.command with
  | .format =>
    match content? around.files request stdin with
    | none => (exitRequest, [])
    | some text => formattedEnd ((service.format around text).answered execute).value
  | .check =>
    checkedEnd request.reportFormat
      ((service.check around (request.file.getD [])).answered execute).value

/-- The end of a command line. -/
def ending (around : Surroundings) (execute : Invocation → RunReport) (arguments : List Bytes)
    (stdin : Bytes) : Nat × Bytes :=
  match Request.read around.files arguments with
  | .error _ => (exitRequest, [])
  | .ok request =>
    match request.settings around.files with
    | .error _ => (exitRequest, [])
    | .ok settings => requestEnd around execute stdin request settings

theorem visible_formatted (session : Session) (answer : Logged (Except ToolError (Option Bytes))) :
    (session.formatted answer).visible = formattedEnd answer.value := by
  obtain ⟨log, value⟩ := answer
  rcases value with error | (_ | text) <;> rfl

theorem visible_checked (session : Session) (format : ReportFormat)
    (answer : Logged (Except ToolError (List Diagnostics.Record))) :
    (session.checked format answer).visible = checkedEnd format answer.value := by
  obtain ⟨log, value⟩ := answer
  rcases value with error | records <;> rfl

theorem visible_carryOut (tag : Bytes) :
    ((carryOut around tag stdin request settings).answered execute).visible =
      requestEnd around execute stdin request settings := by
  simp only [carryOut, requestEnd]
  cases request.command with
  | format =>
    cases content? around.files request stdin with
    | none => rfl
    | some text => simp only [Plan.answered_map, visible_formatted]
  | check => simp only [Plan.answered_map, visible_checked]

/-- The program ends as the table says. -/
theorem visible_plan (tag : Bytes) :
    ((plan around tag arguments stdin).answered execute).visible =
      ending around execute arguments stdin := by
  simp only [plan, ending]
  cases Request.read around.files arguments with
  | error error => rfl
  | ok request =>
    simp only
    cases request.settings around.files with
    | error error => rfl
    | ok settings => exact visible_carryOut tag

/-- What the tool's runs log does not count. -/
theorem ending_congr (same : ∀ call, (other call).value = (execute call).value) :
    ending around other arguments stdin = ending around execute arguments stdin := by
  simp only [ending, requestEnd, Service.value_format, Service.value_check,
    Service.toolRun_congr same]

/-! ## Reading the table -/

/-- The command line cannot be read, its settings cannot be used, or the file to format cannot
be opened. -/
def Refused (files : Files) (arguments : List Bytes) : Prop :=
  (∃ error, Request.read files arguments = .error error) ∨
    ∃ request, Request.read files arguments = .ok request ∧
      ((∃ error, request.settings files = .error error) ∨
        request.command = .format ∧
          ∃ path, request.file = some path ∧ files.contents? path = none)

/-- There is nothing to format only if the file that is named cannot be read. -/
theorem content?_eq_none {files : Files} (stdin : Bytes) :
    content? files request stdin = none ↔
      ∃ path, request.file = some path ∧ files.contents? path = none := by
  rw [content?]
  cases request.file with
  | none => simp
  | some path => simp

theorem formattedEnd_ne_request (answer : Except ToolError (Option Bytes)) :
    formattedEnd answer ≠ (exitRequest, []) := by
  rcases answer with error | (_ | text) <;> nofun

theorem formattedEnd_eq_tool_iff {answer : Except ToolError (Option Bytes)} :
    formattedEnd answer = (exitTool, []) ↔ ∃ error, answer = .error error := by
  rcases answer with error | (_ | text)
  · exact ⟨fun _ => ⟨error, rfl⟩, fun _ => rfl⟩
  · exact ⟨nofun, nofun⟩
  · exact ⟨nofun, nofun⟩

theorem checkedEnd_ne_request (format : ReportFormat)
    (answer : Except ToolError (List Diagnostics.Record)) :
    checkedEnd format answer ≠ (exitRequest, []) := by
  rcases answer with error | (_ | ⟨record, records⟩) <;> nofun

theorem checkedEnd_eq_tool_iff {format : ReportFormat}
    {answer : Except ToolError (List Diagnostics.Record)} :
    checkedEnd format answer = (exitTool, []) ↔ ∃ error, answer = .error error := by
  rcases answer with error | (_ | ⟨record, records⟩)
  · exact ⟨fun _ => ⟨error, rfl⟩, fun _ => rfl⟩
  · exact ⟨nofun, nofun⟩
  · exact ⟨nofun, nofun⟩

/-- A request whose settings were read is still refused if its file is to be formatted and cannot be
opened. -/
theorem requestEnd_eq_request_iff :
    requestEnd around execute stdin request settings = (exitRequest, []) ↔
      request.command = .format ∧
        ∃ path, request.file = some path ∧ around.files.contents? path = none := by
  rw [← content?_eq_none stdin, requestEnd]
  cases command : request.command with
  | format =>
    cases content? around.files request stdin with
    | none => simp
    | some text => simp [formattedEnd_ne_request]
  | check => simp [checkedEnd_ne_request]

/-- A run ends with the exit code for a refused request exactly if the request is refused. -/
theorem ending_eq_request_iff :
    ending around execute arguments stdin = (exitRequest, []) ↔
      Refused around.files arguments := by
  rw [ending, Refused]
  cases read : Request.read around.files arguments with
  | error error => simp
  | ok request =>
    cases settings : request.settings around.files with
    | error error => simp [settings]
    | ok settings => simp [settings, requestEnd_eq_request_iff]

/-- A run ends as its request does, once that and its settings were read. -/
theorem ending_eq_requestEnd (read : Request.read around.files arguments = .ok request)
    (accepted : request.settings around.files = .ok settings) :
    ending around execute arguments stdin =
      requestEnd around execute stdin request settings := by
  rw [ending, read]
  simp only [accepted]

theorem requestEnd_of_format {content : Bytes} (command : request.command = .format)
    (given : content? around.files request stdin = some content) :
    requestEnd around execute stdin request settings = formattedEnd
      ((({ settings } : Service).format around content).answered execute).value := by
  rw [requestEnd, command]
  simp only [given]

theorem requestEnd_of_check {file : Bytes} (command : request.command = .check)
    (named : request.file = some file) :
    requestEnd around execute stdin request settings = checkedEnd request.reportFormat
      ((({ settings } : Service).check around file).answered execute).value := by
  rw [requestEnd, command, named]
  rfl

/-- The end of a format request whose tool gave a result. -/
theorem formattedEnd_result (result : RunResult) :
    let seen := formattedEnd (.ok (Service.readFormatted result).value)
    (seen = (exitClean, result.output) ↔ result.state = .completed ∧ result.exitCode = some 0) ∧
      (¬ (result.state = .completed ∧ result.exitCode = some 0) → seen = (exitFindings, [])) := by
  rw [Service.value_readFormatted]
  by_cases done : result.state = .completed ∧ result.exitCode = some 0
  · rw [if_pos done]
    exact ⟨⟨fun _ => done, fun _ => rfl⟩, fun failed => absurd done failed⟩
  · rw [if_neg done]
    exact ⟨⟨nofun, fun succeeded => absurd succeeded done⟩, fun _ => rfl⟩

/-- The end of a check request whose tool reported these problems. -/
theorem checkedEnd_records (records : List Diagnostics.Record) :
    let seen := checkedEnd .text (.ok records)
    seen.2 = Diagnostics.renderText records ∧ (seen.1 = exitFindings ↔ records ≠ []) ∧
      (records = [] → seen = (exitClean, [])) := by
  cases records with
  | nil => exact ⟨rfl, ⟨nofun, fun some => absurd rfl some⟩, fun _ => rfl⟩
  | cons record records => exact ⟨rfl, ⟨nofun, fun _ => rfl⟩, nofun⟩

/-- What a caller sees, for every command line that does not ask for JSON.

* Exit code 2 and no output: the command line is refused.
* Otherwise, exit code 3 and no output: the service says that the tool cannot be used.
* Otherwise, a format request comes to the tool's output and exit code 0 exactly if the tool ran
  to its end and exited with zero, and else to exit code 1 and no output.
* Otherwise, a check request comes to the report of the problems.  The exit code is 1 if there
  are any, and else it is 0 and there is no output.

What is logged, and under which tag, is not seen. -/
theorem exit_and_stdout (around : Surroundings) (execute : Invocation → RunReport) (tag : Bytes)
    {arguments : List Bytes} (stdin : Bytes) (text : Switch.json.name ∉ arguments) :
    let seen := ((plan around tag arguments stdin).answered execute).visible
    (seen = (exitRequest, []) ↔ Refused around.files arguments) ∧
    (∀ request settings, Request.read around.files arguments = .ok request →
      request.settings around.files = .ok settings →
      let service : Service := { settings }
      (request.command = .format → ∀ content, content? around.files request stdin = some content →
        let answer := ((service.format around content).answered execute).value
        (seen = (exitTool, []) ↔ ∃ error, answer = .error error) ∧
        ((∀ error, answer ≠ .error error) → ∃ result,
          service.toolRun around execute (some content) [utf8 "fmt", utf8 "-"] = .ok result ∧
          (seen = (exitClean, result.output) ↔
            result.state = .completed ∧ result.exitCode = some 0) ∧
          (¬ (result.state = .completed ∧ result.exitCode = some 0) →
            seen = (exitFindings, [])))) ∧
      (request.command = .check → ∃ file, request.file = some file ∧
        let answer := ((service.check around file).answered execute).value
        (seen = (exitTool, []) ↔ ∃ error, answer = .error error) ∧
        ∀ records, answer = .ok records →
          seen.2 = Diagnostics.renderText records ∧
          (seen.1 = exitFindings ↔ records ≠ []) ∧
          (records = [] → seen = (exitClean, [])))) ∧
    ∀ otherTag other, (∀ call, (other call).value = (execute call).value) →
      ((plan around otherTag arguments stdin).answered other).visible = seen := by
  intro seen
  have table : seen = ending around execute arguments stdin := visible_plan tag
  refine ⟨by rw [table, ending_eq_request_iff], ?_, fun otherTag other same => ?_⟩
  · intro request settings read accepted service
    rw [ending_eq_requestEnd read accepted] at table
    refine ⟨fun command content given => ?_, fun command => ?_⟩
    · intro answer
      have table : seen = formattedEnd answer := table.trans (requestEnd_of_format command given)
      refine ⟨by rw [table, formattedEnd_eq_tool_iff], fun usable => ?_⟩
      obtain ⟨result, run, answered⟩ := Service.result_of_format usable
      rw [table.trans (congrArg formattedEnd answered)]
      exact ⟨result, run, formattedEnd_result result⟩
    · obtain ⟨file, named⟩ := Request.file_of_read read command
      rw [requestEnd_of_check command named, Request.reportFormat_of_read read text] at table
      refine ⟨file, named, by rw [table, checkedEnd_eq_tool_iff], fun records found => ?_⟩
      rw [found] at table
      rw [table]
      exact checkedEnd_records records
  · rw [visible_plan, ending_congr same, table]

/-- A directory with one file, and a tool on the search path. -/
def oneFile : Surroundings where
  files := { Files.bare with
    isRegular := (· == utf8 "a.cue")
    isExecutable := (· == utf8 "/bin/cue")
    contents? := fun path => if path == utf8 "a.cue" then some (utf8 "a:1") else none }
  searchPath := utf8 "/bin"

/-- The tool has found one problem. -/
def oneProblem : Invocation → RunReport := fun _ =>
  .quiet (.ok {
    state := .completed
    exitCode := some 1
    output := utf8 "conflicting values\n    ./a.cue:1:2\n" })

/-- The problem is reported with the file that was asked about. -/
theorem one_problem_is_reported :
    Switch.json.name ∉ [utf8 "vet", utf8 "a.cue"] ∧
      ((plan oneFile (utf8 "cue-00000000") [utf8 "vet", utf8 "a.cue"] []).answered
        oneProblem).visible = (1, utf8 "a.cue:1:2: conflicting values\n") := by
  have text : Switch.json.name ∉ [utf8 "vet", utf8 "a.cue"] := by decide
  obtain ⟨-, accepted, -⟩ := exit_and_stdout oneFile oneProblem (utf8 "cue-00000000") [] text
  obtain ⟨file, named, -, answered⟩ := (accepted
    { command := .check, file := some (utf8 "a.cue") } {} rfl rfl).2 rfl
  cases named
  obtain ⟨report, exit, -⟩ := answered
    [{ file := utf8 "a.cue", line := 1, column := 2, message := utf8 "conflicting values" }] rfl
  refine ⟨text, Prod.ext (exit.mpr nofun) (report.trans ?_)⟩
  have line : Decimal.signed 1 = utf8 "1" := by rw [Decimal.signed, Decimal.digits]; rfl
  have column : Decimal.signed 2 = utf8 "2" := by rw [Decimal.signed, Decimal.digits]; rfl
  simp only [Diagnostics.renderText, List.flatMap_cons, List.flatMap_nil,
    Diagnostics.Record.render, line, column]
  rfl

/-! ## Verbosity -/

variable {word : Bytes} {before after : List Bytes}

/-- The table does not look at the level of the log. -/
theorem requestEnd_loud :
    requestEnd around execute stdin request.loud settings.loud =
      requestEnd around execute stdin request settings := by
  simp only [requestEnd, Service.value_format, Service.value_check]
  rfl

/-- The switch for verbose output does not change how a run ends. -/
theorem ending_verbose (whole : ExpectsOption before) :
    ending around execute (word :: (before ++ Switch.verbose.name :: after)) stdin =
      ending around execute (word :: (before ++ after)) stdin := by
  rw [ending, ending, Request.read_verbose whole]
  cases Request.read around.files (word :: (before ++ after)) with
  | error error => rfl
  | ok request =>
    simp only [Functor.map, Except.map, Request.settings_loud]
    cases request.settings around.files with
    | error error => rfl
    | ok settings => exact requestEnd_loud

/-- With `--verbose`, wherever an option may stand, a caller sees what is seen without it. -/
theorem verbose_is_invisible (around : Surroundings) (tag otherTag word stdin : Bytes)
    (after : List Bytes) (whole : ExpectsOption before)
    (same : ∀ call, (other call).value = (execute call).value) :
    ((plan around otherTag (word :: (before ++ Switch.verbose.name :: after)) stdin).answered
        other).visible =
      ((plan around tag (word :: (before ++ after)) stdin).answered execute).visible := by
  rw [visible_plan, visible_plan, ending_congr same, ending_verbose whole]

/-- The tool reports the same problem and says more about it. -/
def wordyProblem : Invocation → RunReport := fun call =>
  ⟨[Log.debug call.executable], (oneProblem call).value⟩

theorem wordy_problem_is_reported :
    ExpectsOption [utf8 "--cue", utf8 "/bin/cue"] ∧
      (∀ call, (wordyProblem call).value = (oneProblem call).value) ∧
      ((plan oneFile (utf8 "cue-00000001")
          [utf8 "vet", utf8 "--cue", utf8 "/bin/cue", utf8 "--verbose", utf8 "a.cue"] []).answered
        wordyProblem).visible =
      ((plan oneFile (utf8 "cue-00000000")
          [utf8 "vet", utf8 "--cue", utf8 "/bin/cue", utf8 "a.cue"] []).answered
        oneProblem).visible := by
  have whole : ExpectsOption [utf8 "--cue", utf8 "/bin/cue"] :=
    .value (show Word.of (utf8 "--cue") = .valueFlag .cue by decide) .start
  have same : ∀ call, (wordyProblem call).value = (oneProblem call).value := fun _ => rfl
  exact ⟨whole, same, verbose_is_invisible oneFile _ _ (utf8 "vet") [] [utf8 "a.cue"] whole same⟩

end Program

end CueFront
