import CueFront.Diagnostics.Report
import CueFront.Messages
import CueFront.Request
import CueFront.Service

/-!
# The program

One command line is one plan.  The exit code says how it ended: nothing to report, problems
found or nothing usable from the tool, a request that cannot be carried out, a tool that
cannot be used.  Standard output carries the formatted text or the report and nothing else;
the log goes to standard error.
-/

namespace CueFront

namespace Program

/-! ## Exit codes -/

/-- All is well. -/
def exitClean : Nat := 0

/-- There are problems, or there is no result. -/
def exitFindings : Nat := 1

/-- The request or its settings cannot be used. -/
def exitRequest : Nat := 2

/-- The tool cannot be used. -/
def exitTool : Nat := 3

/-- What the program leaves behind. -/
structure Output where
  /-- The exit code. -/
  exit : Nat
  /-- Standard output. -/
  stdout : Bytes
  /-- Standard error. -/
  stderr : Bytes
deriving DecidableEq, Repr

/-! ## What is logged -/

/-- The entries about a refused command line. -/
def usageEntries (fault : Fault) : List Log.Entry :=
  Log.error (utf8 "Input error [" ++ fault.code ++ utf8 "]: " ++ fault.message) ::
    if fault.hint.isEmpty then [] else [Log.error (utf8 "Hint: " ++ fault.hint)]

/-- The entry about refused settings. -/
def settingsEntry (fault : Fault) : Log.Entry :=
  Log.error (utf8 "Config error [" ++ fault.code ++ utf8 "]: " ++ fault.message)

/-- The entries about a tool that cannot be used. -/
def toolEntries (catalog : Catalog) (fault : Fault) : List Log.Entry :=
  Log.error (catalog.describe fault ++ utf8 " [" ++ fault.category.name ++ utf8 "/" ++ fault.code ++
      utf8 "]") ::
    (if fault.cause.isEmpty then [] else [Log.error (utf8 "Cause: " ++ fault.cause)]) ++
    [Log.debug (utf8 "Detail: " ++ fault.message)] ++
    (if fault.hint.isEmpty then [] else [Log.info (utf8 "Hint: " ++ fault.hint)]) ++
    if fault.toolUnavailable then
      [Log.info (utf8 "Point --cue or \"executable_path\" at a working cue binary.")]
    else []

/-- The entry about what is going to be done. -/
def introduction (command : Command) (settings : Settings) : Log.Entry :=
  Log.info (utf8 "Running cue " ++ command.name ++ utf8 " (timeout " ++
    Decimal.signed settings.timeout ++ utf8 " ms, check exit policy " ++
    settings.exitPolicy.name ++ utf8 ")")

/-- The messages of a run, and the entry about a bundle that cannot be used. -/
def catalogOf (files : Files) (settings : Settings) : Logged Catalog :=
  match settings.messageBundle with
  | none => .quiet .builtIn
  | some path =>
    match Catalog.builtIn.load files path with
    | .ok catalog => .quiet catalog
    | .error fault => .note (Log.warn (fault.message ++ utf8 "; using built-in messages")) .builtIn

/-! ## How a plan ends -/

/-- A run of the program that has come to the tool. -/
structure Session where
  /-- Where entries are written. -/
  logger : Log.Logger
  /-- The texts for faults. -/
  catalog : Catalog
  /-- What was logged so far. -/
  log : List Log.Entry

namespace Session

/-- Ends the program. -/
def finish (session : Session) (exit : Nat) (stdout : Bytes) (log : List Log.Entry) : Output :=
  { exit, stdout, stderr := session.logger.writeAll (session.log ++ log) }

/-- Ends the program because the tool cannot be used. -/
def toolFailed (session : Session) (log : List Log.Entry) (error : ToolError) : Output :=
  session.finish exitTool [] (log ++ toolEntries session.catalog error.toFault)

/-- Ends a format request. -/
def formatted (session : Session) (answer : Logged (Except ToolError (Option Bytes))) : Output :=
  match answer.value with
  | .error error => session.toolFailed answer.log error
  | .ok (some text) => session.finish exitClean text answer.log
  | .ok none =>
    session.finish exitFindings [] (answer.log ++
      [Log.warn (utf8 "cue fmt produced no result (invalid input, failure or timeout).")])

/-- The report of a check in the format that was asked for. -/
def reportText (format : ReportFormat) (records : List Diagnostics.Record) : Bytes :=
  match format with
  | .text => Diagnostics.renderText records
  | .json => Diagnostics.renderJson records ++ [Byte.lineFeed]

/-- Ends a check request. -/
def checked (session : Session) (format : ReportFormat)
    (answer : Logged (Except ToolError (List Diagnostics.Record))) : Output :=
  match answer.value with
  | .error error => session.toolFailed answer.log error
  | .ok records =>
    session.finish (if records.isEmpty then exitClean else exitFindings)
      (reportText format records) answer.log

end Session

/-! ## The program -/

/-- The text to format: the file that is named, or standard input. -/
def content? (files : Files) (request : Request) (stdin : Bytes) : Option Bytes :=
  match request.file with
  | some path => files.contents? path
  | none => some stdin

/-- Whether the program reads its standard input. -/
def readsInput (files : Files) (arguments : List Bytes) : Bool :=
  match Request.read files arguments with
  | .ok request => request.command == .format && request.file.isNone
  | .error _ => false

/-- Carries out a request with its settings. -/
def carryOut (around : Surroundings) (tag stdin : Bytes) (request : Request)
    (settings : Settings) : Plan Output :=
  let catalog := catalogOf around.files settings
  let session : Session := {
    logger := { tag, least := settings.logLevel }
    catalog := catalog.value
    log := catalog.log ++ [introduction request.command settings] }
  let service : Service := { settings }
  match request.command with
  | .format =>
    match content? around.files request stdin with
    | none =>
      .done (session.finish exitRequest [] [Log.error (utf8 "Unable to read input to format.")])
    | some text => (service.format around text).map session.formatted
  | .check =>
    (service.check around (request.file.getD [])).map (session.checked request.reportFormat)

/-- The program: its arguments without its own name, and its standard input. -/
def plan (around : Surroundings) (tag : Bytes) (arguments : List Bytes) (stdin : Bytes) :
    Plan Output :=
  let logger : Log.Logger := { tag }
  match Request.read around.files arguments with
  | .error error => .done
    { exit := exitRequest, stdout := [], stderr := logger.writeAll (usageEntries error.toFault) }
  | .ok request =>
    match request.settings around.files with
    | .error error => .done
      { exit := exitRequest, stdout := [], stderr := logger.write (settingsEntry error.toFault) }
    | .ok settings => carryOut around tag stdin request settings

end Program

end CueFront
