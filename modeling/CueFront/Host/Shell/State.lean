import CueFront.Host.Code
import CueFront.Host.Shell.Glob
import CueFront.Host.Shell.Reader

/-!
# The state of a shell

`ShellM` is the type of what a shell does: it works on the shell's own state and makes calls
to the host.  A fork copies the state with everything else, so a subshell needs no more than
a fork.
-/

namespace CueFront

namespace Host

namespace Shell

/-- A variable. -/
structure Variable where
  /-- Its value, if it has one. -/
  value : Option Bytes
  /-- Whether programs get it. -/
  exported : Bool := false
  /-- Whether it is kept as it is. -/
  fixed : Bool := false
deriving DecidableEq, Repr

/-- The state of a shell. -/
structure State where
  /-- The variables, in the order they were made. -/
  vars : List (Bytes × Variable)
  /-- The functions. -/
  functions : List (Bytes × Command) := []
  /-- The arguments. -/
  arguments : List Bytes
  /-- The name of the shell or its script. -/
  name : Bytes
  /-- The exit code of the last command. -/
  status : Nat := 0
  /-- The exit code of the last command that was run for its output in the current command. -/
  captured : Option Nat := none
  /-- The process of the shell. -/
  pid : Pid
  /-- The last process in the background. -/
  background : Option Pid := none
  /-- The processes in the background that run, as far as is known. -/
  jobs : List Pid := []
  /-- Exit codes of processes in the background that ended while another was waited for. -/
  endedJobs : List (Pid × Nat) := []
  /-- What is done about signals; the number zero stands for the end of the shell. -/
  traps : List (Signal × Bytes) := []
  /-- Signals that have come and were not yet acted on. -/
  arrived : List Signal := []
  /-- The line of the current command. -/
  line : Nat := 1
  /-- The command of the shell that runs, if one does. -/
  running : Option Bytes := none
  /-- The letters of the options that are on. -/
  options : Bytes := []
  /-- Whether a failure is looked at, and so does not end the shell. -/
  tested : Bool := false
  /-- Variables that the current function hides. -/
  hidden : List (Bytes × Option Variable) := []
  /-- Whether the shell is in a function. -/
  inFunction : Bool := false
  /-- The number of loops around the current command, in its function. -/
  loops : Nat := 0

/-- A command that is given up; what is wrong was said. -/
structure GivenUp

/-- What a shell does. -/
abbrev ShellM := ExceptT GivenUp (StateT State Task)

/-- How a command ends. -/
inductive Flow where
  /-- The next command follows. -/
  | next
  /-- A number of loops end. -/
  | leave (loops : Nat)
  /-- The last of a number of loops goes on. -/
  | again (loops : Nat)
  /-- The function ends. -/
  | finish
deriving DecidableEq, Repr

/-! ## Calls -/

/-- Does what does not concern the state of the shell. -/
def perform {α : Type} (task : Task α) : ShellM α := ExceptT.lift (StateT.lift task)

/-- Makes a call. -/
def ask (call : Syscall) : ShellM Reply := perform (Task.ask call)

/-- Makes a call whose answer does not matter. -/
def tell (call : Syscall) : ShellM Unit := perform (Task.tell call)

/-- Ends the process. -/
def quit {α : Type} (code : Nat) : ShellM α := perform (Task.exit code)

/-- Makes a child: gives zero in the child, and the number of the child in the parent. -/
def fork : ShellM Pid := perform Task.fork

/-- Writes to the error output. -/
def warn (text : Bytes) : ShellM Unit := do
  let _ ← perform (Task.writeAll 2 text)

/-- Sets the exit code. -/
def setStatus (status : Nat) : ShellM Unit := modify ({ · with status })

/-- Writes a complaint to the error output, with the place it comes from. -/
def complain (text : Bytes) : ShellM Unit := do
  let state ← get
  let place := [state.name, Decimal.digits state.line] ++ state.running.toList
  warn (Bytes.joinWith (utf8 ": ") (place ++ [text]) ++ [Byte.lineFeed])

/-- Gives up the current command after a complaint. -/
def giveUp {α : Type} (text : Bytes) : ShellM α := do
  complain text
  throw {}

/-! ## Variables -/

/-- The variable with a name. -/
def State.find? (state : State) (name : Bytes) : Option Variable := state.vars.lookup name

/-- The value of a variable. -/
def State.value? (state : State) (name : Bytes) : Option Bytes :=
  (state.find? name).bind (·.value)

/-- Puts a variable in place. -/
def State.put (state : State) (name : Bytes) (held : Variable) : State :=
  if state.vars.any (·.1 == name) then
    { state with
      vars := state.vars.map fun entry =>
        if entry.1 == name then (name, held) else entry }
  else { state with vars := state.vars ++ [(name, held)] }

/-- Takes a variable away. -/
def State.drop (state : State) (name : Bytes) : State :=
  { state with vars := state.vars.filter (·.1 != name) }

/-- The state after an assignment. -/
def State.assign (state : State) (name value : Bytes) : State :=
  let held := (state.find? name).getD { value := none }
  let exported := held.exported || state.options.any (· == Byte.of 'a')
  state.put name { held with value := some value, exported }

/-- The environment that programs get. -/
def State.environment (state : State) : List Bytes :=
  state.vars.filterMap fun (name, held) =>
    match held.value with
    | some value => if held.exported then some (name ++ [Byte.equals] ++ value) else none
    | none => none

/-- The long names of options, and their letters if they have any. -/
def optionNames : List (String × Option Char) :=
  [("errexit", 'e'), ("noglob", 'f'), ("ignoreeof", 'I'), ("interactive", 'i'), ("monitor", 'm'),
    ("noexec", 'n'), ("stdin", 's'), ("xtrace", 'x'), ("verbose", 'v'), ("vi", 'V'),
    ("emacs", 'E'), ("noclobber", 'C'), ("allexport", 'a'), ("notify", 'b'), ("nounset", 'u'),
    ("privileged", 'p'), ("nolog", none), ("debug", none)]

/-- The letters of all options in their order. -/
def optionLetters : Bytes := optionNames.reverse.filterMap fun entry => entry.2.map Byte.of

/-- Whether an option is on. -/
def State.isOn (state : State) (letter : Char) : Bool :=
  state.options.any (· == Byte.of letter)

/-- The bytes that separate fields. -/
def State.separators (state : State) : Bytes :=
  (state.value? (utf8 "IFS")).getD [Byte.space, Byte.tab, Byte.lineFeed]

/-- Text in single quotes. -/
def inQuotes (text : Bytes) : Bytes :=
  let one (b : UInt8) : Bytes := if b == Byte.singleQuote then utf8 "'\"'\"'" else [b]
  utf8 "'" ++ text.flatMap one ++ utf8 "'"

end Shell

end Host

end CueFront
