import CueFront.Diagnostics.Parser
import CueFront.Run.Invocation
import CueFront.Search

/-!
# Formatting and checking

A service formats texts and checks files by calling the tool.  What it does is a `Plan`: it
may need one run of the tool, and then the run's report decides.  A plan says which call is
made before anything runs, so what the tool is asked and what its answer means can be
stated for every answer.
-/

namespace CueFront

/-- Work that may need one run of the tool. -/
inductive Plan (α : Type) where
  /-- Done without the tool. -/
  | done (value : α)
  /-- Calls the tool and goes on with its report. -/
  | run (call : Invocation) (next : RunReport → α)

namespace Plan

/-- Changes what comes out. -/
def map {α β : Type} (f : α → β) : Plan α → Plan β
  | .done value => .done (f value)
  | .run call next => .run call fun report => f (next report)

/-- Carries a plan out with a way to run the tool. -/
def carryOut {α : Type} {m : Type → Type} [Monad m] (execute : Invocation → m RunReport) :
    Plan α → m α
  | .done value => pure value
  | .run call next => do return next (← execute call)

end Plan

/-- What a service finds around it. -/
structure Surroundings where
  /-- The file system. -/
  files : Files
  /-- The search path of the environment. -/
  searchPath : Bytes

/-- Why the tool could not do its work. -/
inductive ToolError where
  /-- It was not found. -/
  | search (error : SearchError)
  /-- It could not be run. -/
  | run (error : RunError)
deriving DecidableEq, Repr

/-- The error as it is shown. -/
def ToolError.toFault : ToolError → Fault
  | .search error => error.toFault
  | .run error => error.toFault

/-- A way to format and check. -/
structure Service where
  /-- How the tool is found and run. -/
  settings : Settings := {}
  /-- A search path in place of the environment's. -/
  searchPath : Option Bytes := none
  /-- How reports are read. -/
  parser : Diagnostics.Parser := {}

namespace Service

/-- The service with another timeout. -/
def withTimeout (service : Service) (timeout : Int) : Service :=
  { service with settings := { service.settings with timeout } }

/-- Finds the tool. -/
def resolve (service : Service) (around : Surroundings) : Logged (Except SearchError Bytes) :=
  Search.resolve around.files (service.searchPath.getD around.searchPath)
    service.settings.executablePath service.settings.toolName

/-- Finds the tool and calls it. -/
def callTool {α : Type} (service : Service) (around : Surroundings) (input : Option Bytes)
    (arguments : List Bytes) (next : RunResult → Logged α) :
    Plan (Logged (Except ToolError α)) :=
  let found := service.resolve around
  match found.value with
  | .error error => .done ⟨found.log, .error (.search error)⟩
  | .ok executable =>
    .run { executable, arguments, input, timeout := service.settings.timeout } fun report =>
      match report.value with
      | .error error => ⟨found.log ++ report.log, .error (.run error)⟩
      | .ok result =>
        let rest := next result
        ⟨found.log ++ report.log ++ rest.log, .ok rest.value⟩

/-! ## Formatting -/

/-- The formatted text, if the run was a success. -/
def readFormatted (result : RunResult) : Logged (Option Bytes) :=
  if result.succeeded then .quiet (some result.output)
  else .note (Log.debug (utf8 "CueCommandService: fmt unusable, state=" ++ result.state.name)) none

/-- Formats a text. -/
def format (service : Service) (around : Surroundings) (content : Bytes) :
    Plan (Logged (Except ToolError (Option Bytes))) :=
  service.callTool around (some content) [utf8 "fmt", utf8 "-"] readFormatted

/-! ## Checking -/

/-- The entry about what the tool wrote to its standard error. -/
def errorEntries (result : RunResult) : List Log.Entry :=
  if result.errors.isEmpty then []
  else [Log.debug (utf8 "CueCommandService: vet stderr: " ++ result.errors)]

/-- The problems a run reported about a file. -/
def readProblems (service : Service) (file : Bytes) (result : RunResult) :
    Logged (List Diagnostics.Record) :=
  match result.timedOut || result.cancelled, result.exitCode with
  | false, some code =>
    if code != 0 && service.settings.exitPolicy == .discard then
      ⟨errorEntries result ++ [Log.debug (utf8 "CueCommandService: discarding vet output, exit=" ++
        Decimal.digits code)], []⟩
    else
      let records := service.parser.parse result.output file
      ⟨errorEntries result ++ [Log.debug (utf8 "CueCommandService: vet reported " ++
        Decimal.digits records.length ++ utf8 " problem(s) in " ++ file)], records⟩
  | _, _ => .quiet []

/-- Checks a file. -/
def check (service : Service) (around : Surroundings) (file : Bytes) :
    Plan (Logged (Except ToolError (List Diagnostics.Record))) :=
  service.callTool around none [utf8 "vet", Search.absolute around.files file]
    (service.readProblems file)

end Service

end CueFront
