import CueFront.Errno
import CueFront.Fault
import CueFront.Log

/-!
# Invocations and their results

An invocation is one call of the tool: what to run, with which arguments and input, and for
how long.  It ends in a result or in an error.  A timeout, a cancellation and a failing
exit code are results; errors are kept for a tool that could not be run at all.
-/

namespace CueFront

/-- One call of a tool. -/
structure Invocation where
  /-- The path of the program. -/
  executable : Bytes
  /-- Its arguments, without its own name. -/
  arguments : List Bytes := []
  /-- What it reads.  Without input it reads from the null device. -/
  input : Option Bytes := none
  /-- How long it may run, in milliseconds. -/
  timeout : Int := 5000
deriving DecidableEq, Repr

/-- How far a run has come. -/
inductive RunState where
  /-- The child is forked. -/
  | spawned
  /-- The program runs. -/
  | running
  /-- The child has ended by itself. -/
  | completed
  /-- The child was killed after its time. -/
  | timedOut
  /-- The child was killed, or never started, because of the token. -/
  | cancelled
deriving DecidableEq, Repr

namespace RunState

/-- The states in order. -/
def all : List RunState := [.spawned, .running, .completed, .timedOut, .cancelled]

/-- The name of a state. -/
def name : RunState → Bytes
  | .spawned => utf8 "spawned"
  | .running => utf8 "running"
  | .completed => utf8 "completed"
  | .timedOut => utf8 "timed_out"
  | .cancelled => utf8 "cancelled"

end RunState

/-- What a run gave. -/
structure RunResult where
  /-- How it ended. -/
  state : RunState
  /-- The exit code of a completed run. -/
  exitCode : Option Nat := none
  /-- What the tool wrote to its standard output. -/
  output : Bytes := []
  /-- What the tool wrote to its standard error. -/
  errors : Bytes := []
deriving DecidableEq, Repr

namespace RunResult

/-- The tool ran to its end and reported success. -/
def succeeded (result : RunResult) : Bool :=
  result.state == .completed && result.exitCode == some 0

/-- The tool ran out of time. -/
def timedOut (result : RunResult) : Bool := result.state == .timedOut

/-- The run was cancelled. -/
def cancelled (result : RunResult) : Bool := result.state == .cancelled

end RunResult

/-- Why a tool could not be run. -/
inductive RunError where
  /-- Its pipes could not be made. -/
  | pipes (errno : Errno)
  /-- No process could be made for it. -/
  | fork (errno : Errno)
  /-- Its program could not be started. -/
  | start (executable : Bytes) (errno : Errno)
  /-- Its input could not be written. -/
  | write (errno : Errno)
deriving DecidableEq, Repr

namespace RunError

/-- The error number behind the error. -/
def errno : RunError → Errno
  | .pipes errno | .fork errno | .start _ errno | .write errno => errno

/-- What could not be done. -/
def message : RunError → Bytes
  | .pipes _ => utf8 "Failed to create process pipes."
  | .fork _ => utf8 "Failed to fork process."
  | .start executable _ => utf8 "Failed to start " ++ executable
  | .write _ => utf8 "Failed to write to process stdin."

/-- The error as it is shown. -/
def toFault (error : RunError) : Fault where
  category := .execution
  message := error.message
  code := Fault.executeError
  cause := error.errno.message

end RunError

/-- How a run ended, and its log. -/
abbrev RunReport := Logged (Except RunError RunResult)

end CueFront
