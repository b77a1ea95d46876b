import CueFront.Fault
import CueFront.Log

/-!
# Settings

How the tool is found and run, and what becomes of its report.  The defaults hold where
neither a settings file nor the command line says otherwise.
-/

namespace CueFront

/-- What to make of a report when the tool exits with a non-zero code. -/
inductive ExitPolicy where
  /-- Read it: the tool exits with one when it has found problems. -/
  | parse
  /-- Ignore it: only the output of a successful run counts. -/
  | discard
deriving DecidableEq, Repr

namespace ExitPolicy

/-- The policies in order. -/
def all : List ExitPolicy := [.parse, .discard]

/-- The name of a policy. -/
def name : ExitPolicy → Bytes
  | .parse => utf8 "parse"
  | .discard => utf8 "discard"

/-- The policy a name stands for. -/
def ofName? (name : Bytes) : Option ExitPolicy := all.find? (·.name == name)

end ExitPolicy

/-- Why settings cannot be used. -/
inductive SettingsError where
  /-- No policy has this name. -/
  | unknownPolicy (name : Bytes)
  /-- No log level has this name. -/
  | unknownLevel (name : Bytes)
  /-- The settings file cannot be opened. -/
  | cannotOpen (path : Bytes)
  /-- The settings file was opened and refused. -/
  | refused (fault : Fault)
deriving DecidableEq, Repr

namespace SettingsError

/-- The error as it is shown. -/
def toFault : SettingsError → Fault
  | .unknownPolicy name =>
    { category := .input
      message := utf8 "Unknown check exit policy: " ++ name
      code := utf8 "invalid_check_exit_policy"
      hint := utf8 "Use \"parse\" or \"discard\"." }
  | .unknownLevel name =>
    { category := .input
      message := utf8 "Unknown log level: " ++ name
      code := utf8 "invalid_log_level"
      hint := utf8 "Use one of debug, info, warn, error." }
  | .cannotOpen path =>
    { category := .input
      message := utf8 "Unable to open config file: " ++ path
      code := utf8 "config_open_failed" }
  | .refused fault => fault

end SettingsError

/-- Reads the name of a policy. -/
def ExitPolicy.read (name : Bytes) : Except SettingsError ExitPolicy :=
  match ofName? name with
  | some policy => .ok policy
  | none => .error (.unknownPolicy name)

/-- Reads the name of a log level. -/
def Log.Level.read (name : Bytes) : Except SettingsError Log.Level :=
  match ofName? name with
  | some level => .ok level
  | none => .error (.unknownLevel name)

/-- The settings of a run. -/
structure Settings where
  /-- The tool's path; empty means that the search path is searched. -/
  executablePath : Bytes := []
  /-- The name to search for. -/
  toolName : Bytes := utf8 "cue"
  /-- How long the tool may run, in milliseconds. -/
  timeout : Int := 5000
  /-- What a non-zero exit means. -/
  exitPolicy : ExitPolicy := .parse
  /-- A file of messages that replace the built-in ones. -/
  messageBundle : Option Bytes := none
  /-- The least level that is logged. -/
  logLevel : Log.Level := .warn
deriving DecidableEq, Repr

end CueFront
