import CueFront.Decimal
import CueFront.Files

/-!
# Requests

The command line names a command, at most one file, and options.  `Options.scan` reads the
words from left to right and stops at the first that cannot be read.  `Request.read` then
checks the options in a fixed order.  An option may be given again and the last value
counts; a word behind an option that takes a value is its value, whatever it looks like.
-/

namespace CueFront

/-- What is asked for. -/
inductive Command where
  /-- Format a text. -/
  | format
  /-- Check a file. -/
  | check
deriving DecidableEq, Repr

namespace Command

/-- The commands in order. -/
def all : List Command := [.format, .check]

/-- The word for a command. -/
def name : Command → Bytes
  | .format => utf8 "fmt"
  | .check => utf8 "vet"

/-- The command a word stands for. -/
def ofName? (name : Bytes) : Option Command := all.find? (·.name == name)

end Command

/-- How problems are reported. -/
inductive ReportFormat where
  /-- Lines for people. -/
  | text
  /-- One document. -/
  | json
deriving DecidableEq, Repr

namespace ReportFormat

/-- The name of a format. -/
def name : ReportFormat → Bytes
  | .text => utf8 "text"
  | .json => utf8 "json"

end ReportFormat

/-- A request that has been checked. -/
structure Request where
  /-- What is asked for. -/
  command : Command
  /-- The file, if one is named. -/
  file : Option Bytes := none
  /-- The settings file, if one is named. -/
  configFile : Option Bytes := none
  /-- The tool's path, if given. -/
  executablePath : Option Bytes := none
  /-- The time the tool may run, in milliseconds, if given. -/
  timeout : Option Nat := none
  /-- The name of the exit policy, if given. -/
  exitPolicy : Option Bytes := none
  /-- How problems are reported. -/
  reportFormat : ReportFormat := .text
  /-- Whether everything is logged. -/
  verbose : Bool := false
deriving DecidableEq, Repr

/-! ## Words -/

/-- An option that takes a value. -/
inductive ValueFlag where
  /-- The settings file. -/
  | config
  /-- The path of the tool. -/
  | cue
  /-- How long the tool may run. -/
  | timeout
  /-- What a failing exit code means for a check. -/
  | exitPolicy
deriving DecidableEq, Repr

namespace ValueFlag

/-- The options in order. -/
def all : List ValueFlag := [.config, .cue, .timeout, .exitPolicy]

/-- How the option is written. -/
def name : ValueFlag → Bytes
  | .config => utf8 "--config"
  | .cue => utf8 "--cue"
  | .timeout => utf8 "--timeout-ms"
  | .exitPolicy => utf8 "--check-exit-policy"

end ValueFlag

/-- An option without a value. -/
inductive Switch where
  /-- The report is a document. -/
  | json
  /-- The log holds everything. -/
  | verbose
deriving DecidableEq, Repr

namespace Switch

/-- The switches in order. -/
def all : List Switch := [.json, .verbose]

/-- How the switch is written. -/
def name : Switch → Bytes
  | .json => utf8 "--json"
  | .verbose => utf8 "--verbose"

end Switch

/-- What a word is where an option is expected. -/
inductive Word where
  /-- A flag with a value behind it. -/
  | valueFlag (flag : ValueFlag)
  /-- A switch. -/
  | switch (switch : Switch)
  /-- It looks like an option and is none. -/
  | unknown
  /-- It names a file. -/
  | file
deriving DecidableEq, Repr

/-- Two hyphens start every option. -/
def optionMark : Bytes := utf8 "--"

/-- Classifies a word. -/
def Word.of (word : Bytes) : Word :=
  match ValueFlag.all.find? (·.name == word) with
  | some flag => .valueFlag flag
  | none =>
    match Switch.all.find? (·.name == word) with
    | some found => .switch found
    | none => if optionMark.isPrefixOf word then .unknown else .file

/-! ## Errors -/

/-- Why a command line is refused. -/
inductive UsageError where
  /-- There is no command. -/
  | missingCommand
  /-- The first word is no command. -/
  | unknownCommand (word : Bytes)
  /-- Nothing stands behind a flag that needs a value. -/
  | missingValue (flag : ValueFlag)
  /-- A word looks like a flag and is none. -/
  | unknownArgument (word : Bytes)
  /-- There is more than one file. -/
  | secondFile
  /-- A check has no file. -/
  | missingFile
  /-- A document is asked for without a check. -/
  | jsonWithoutCheck
  /-- The file is no regular file. -/
  | noRegularFile (path : Bytes)
  /-- The timeout is no number. -/
  | invalidTimeout
  /-- The timeout is too short or too long. -/
  | timeoutOutOfBounds
  /-- The settings cannot be used. -/
  | settings (error : SettingsError)
deriving DecidableEq, Repr

namespace UsageError

/-- How the program is used. -/
def usage : Bytes :=
  utf8 ("Usage: cue_bridge fmt [FILE] | cue_bridge vet FILE " ++
    "[--config PATH] [--cue PATH] [--timeout-ms N] " ++
    "[--check-exit-policy parse|discard] [--json] [--verbose]")

/-- The error as it is shown. -/
def toFault : UsageError → Fault
  | .missingCommand =>
    { category := .input
      message := utf8 "No command provided."
      code := utf8 "missing_command"
      hint := usage }
  | .unknownCommand word =>
    { category := .input
      message := utf8 "Unknown command: " ++ word
      code := utf8 "unknown_command"
      hint := usage }
  | .missingValue flag =>
    { category := .input
      message := utf8 "Missing value for " ++ flag.name
      code := utf8 "missing_value" }
  | .unknownArgument word =>
    { category := .input
      message := utf8 "Unknown argument: " ++ word
      code := utf8 "unknown_argument" }
  | .secondFile =>
    { category := .input
      message := utf8 "Only one file may be given."
      code := utf8 "unexpected_argument" }
  | .missingFile =>
    { category := .input
      message := utf8 "vet requires a file to check."
      code := utf8 "missing_file"
      hint := usage }
  | .jsonWithoutCheck =>
    { category := .input
      message := utf8 "--json only applies to vet."
      code := utf8 "conflicting_flags" }
  | .noRegularFile path =>
    { category := .input
      message := utf8 "File does not exist or is not a regular file: " ++ path
      code := utf8 "invalid_path" }
  | .invalidTimeout =>
    { category := .input
      message := utf8 "Invalid number for --timeout-ms"
      code := utf8 "invalid_integer"
      hint := utf8 "Provide a positive integer." }
  | .timeoutOutOfBounds =>
    { category := .input
      message := utf8 "--timeout-ms out of bounds"
      code := utf8 "bounds_error"
      hint := utf8 "Must be between 1 and 600000." }
  | .settings error => error.toFault

end UsageError

/-! ## Reading the words -/

/-- What the words say, before it is checked. -/
structure Options where
  /-- The file. -/
  file : Option Bytes := none
  /-- The value of the settings file. -/
  config : Option Bytes := none
  /-- The value of the tool. -/
  cue : Option Bytes := none
  /-- The value of the timeout. -/
  timeout : Option Bytes := none
  /-- The value of the exit policy. -/
  exitPolicy : Option Bytes := none
  /-- Whether the switch for a document is there. -/
  json : Bool := false
  /-- Whether the switch for the log is there. -/
  verbose : Bool := false
deriving DecidableEq, Repr

namespace Options

/-- Gives an option its value. -/
def set (options : Options) (flag : ValueFlag) (value : Bytes) : Options :=
  match flag with
  | .config => { options with config := some value }
  | .cue => { options with cue := some value }
  | .timeout => { options with timeout := some value }
  | .exitPolicy => { options with exitPolicy := some value }

/-- Turns a switch on. -/
def turnOn (options : Options) (switch : Switch) : Options :=
  match switch with
  | .json => { options with json := true }
  | .verbose => { options with verbose := true }

/-- Reads words into options. -/
def scan : Options → List Bytes → Except UsageError Options
  | options, [] => .ok options
  | options, word :: rest =>
    match Word.of word, rest with
    | .valueFlag flag, [] => .error (.missingValue flag)
    | .valueFlag flag, value :: rest => scan (options.set flag value) rest
    | .switch switch, rest => scan (options.turnOn switch) rest
    | .unknown, _ => .error (.unknownArgument word)
    | .file, rest =>
      if options.file.isSome then .error .secondFile
      else scan { options with file := some word } rest

end Options

/-! ## Checking the options -/

/-- The largest number that is read as a timeout at all. -/
def largestTimeoutWord : Nat := 4294967295

/-- The longest timeout. -/
def longestTimeout : Nat := 600000

/-- Reads a timeout. -/
def readTimeout (text : Bytes) : Except UsageError Nat :=
  match Decimal.readUpTo? largestTimeoutWord text with
  | none => .error .invalidTimeout
  | some n => if n == 0 || n > longestTimeout then .error .timeoutOutOfBounds else .ok n

namespace Options

/-- Refuses a check without a file. -/
def checkFilePresent (options : Options) (command : Command) : Except UsageError Unit :=
  if command == .check && options.file.isNone then .error .missingFile else .ok ()

/-- Refuses the report format of a check for a format request. -/
def checkFormat (options : Options) (command : Command) : Except UsageError Unit :=
  if command == .format && options.json then .error .jsonWithoutCheck else .ok ()

/-- Refuses a file that is no regular file. -/
def checkFile (options : Options) (files : Files) : Except UsageError Unit :=
  match options.file with
  | some path => if files.isRegular path then .ok () else .error (.noRegularFile path)
  | none => .ok ()

/-- Reads the timeout, if there is one. -/
def readTimeout? (options : Options) : Except UsageError (Option Nat) :=
  match options.timeout with
  | some text => (readTimeout text).map some
  | none => .ok none

/-- Refuses an unknown exit policy. -/
def checkPolicy (options : Options) : Except UsageError Unit :=
  match options.exitPolicy with
  | some name => ((ExitPolicy.read name).mapError .settings).map fun _ => ()
  | none => .ok ()

/-- The request the options make up. -/
def toRequest (options : Options) (files : Files) (command : Command) :
    Except UsageError Request := do
  options.checkFilePresent command
  options.checkFormat command
  options.checkFile files
  let timeout ← options.readTimeout?
  options.checkPolicy
  return {
    command
    file := options.file
    configFile := options.config
    executablePath := options.cue
    timeout
    exitPolicy := options.exitPolicy
    reportFormat := if options.json then .json else .text
    verbose := options.verbose }

end Options

namespace Request

/-- Reads a command line, without the name of the program. -/
def read (files : Files) : List Bytes → Except UsageError Request
  | [] => .error .missingCommand
  | word :: words =>
    match Command.ofName? word with
    | none => .error (.unknownCommand word)
    | some command => do
      let options ← ({} : Options).scan words
      options.toRequest files command

/-- The settings a request starts from: those of its settings file, or the defaults. -/
def baseSettings (files : Files) (request : Request) : Except SettingsError Settings :=
  match request.configFile with
  | none => .ok {}
  | some path =>
    match files.settings? path with
    | none => .error (.cannotOpen path)
    | some settings => settings.mapError .refused

/-- The settings of a request: what it says itself counts before its settings file. -/
def settings (files : Files) (request : Request) : Except SettingsError Settings := do
  let base ← request.baseSettings files
  let exitPolicy ←
    match request.exitPolicy with
    | some name => ExitPolicy.read name
    | none => .ok base.exitPolicy
  return { base with
    executablePath := request.executablePath.getD base.executablePath
    timeout := request.timeout.elim base.timeout Int.ofNat
    exitPolicy
    logLevel := if request.verbose then .debug else base.logLevel }

end Request

end CueFront
