import CueFront.Errno

/-!
# Calls to the system

A program that talks to the operating system is a machine: in each state it makes one call,
and the answer leads to the next state.  `Call σ` is what a machine with states `σ` can do
next.  Nothing limits the answers, so a statement about a machine holds for every system
and every schedule.
-/

namespace CueFront

/-- A file descriptor. -/
abbrev Descriptor := Nat

/-- A process id. -/
abbrev Pid := Nat

/-- How a process ended. -/
inductive ExitStatus where
  /-- It exited with a code. -/
  | exited (code : Nat)
  /-- A signal ended it. -/
  | signaled (signal : Nat)
deriving DecidableEq, Repr

namespace ExitStatus

/-- The status as one number: the code, or 128 and the signal. -/
def code : ExitStatus → Nat
  | .exited code => code
  | .signaled signal => 128 + signal

end ExitStatus

/-- What waiting for a child gave. -/
inductive Waited where
  /-- The child has ended. -/
  | ended (status : ExitStatus)
  /-- It has not. -/
  | running
  /-- The call failed. -/
  | failed (errno : Errno)
deriving DecidableEq, Repr

/-- The process or processes that a signal is for. -/
inductive Target where
  /-- All processes of a group. -/
  | group (leader : Pid)
  /-- One process. -/
  | process (pid : Pid)
deriving DecidableEq, Repr

/-- What a forked child does before it becomes the tool: it leads a group of its own, puts
its ends of the pipes in place of the standard descriptors, and executes the program.  If
one of the last two fails it sends the error number through the report pipe. -/
structure ChildPlan where
  /-- What becomes its standard input. -/
  input : Descriptor
  /-- What becomes its standard output. -/
  output : Descriptor
  /-- What becomes its standard error. -/
  errors : Descriptor
  /-- Where it reports a failure. -/
  report : Descriptor
  /-- The program. -/
  executable : Bytes
  /-- The arguments, the program's own name first. -/
  arguments : List Bytes
  /-- The environment. -/
  environment : List Bytes
deriving DecidableEq, Repr

/-- What the child puts in place of its standard descriptors, in the order in which it does so. -/
def ChildPlan.redirects (plan : ChildPlan) : List (Descriptor × Descriptor) :=
  [(0, plan.input), (1, plan.output), (2, plan.errors)]

/-- A call whose answer is of no interest. -/
inductive Action where
  /-- Makes a child the leader of a group. -/
  | setGroup (pid : Pid)
  /-- Makes reading and writing return at once. -/
  | setNonblocking (descriptor : Descriptor)
  /-- Closes a descriptor. -/
  | close (descriptor : Descriptor)
  /-- Waits until a descriptor is ready or a number of milliseconds has passed. -/
  | poll (reading writing : List Descriptor) (milliseconds : Nat)
deriving DecidableEq, Repr

/-- The next call of a machine. -/
inductive Call (σ : Type) where
  /-- Does something. -/
  | act (action : Action) (next : σ)
  /-- Looks at the cancel token. -/
  | token (next : Bool → σ)
  /-- Reads the steady clock, in nanoseconds. -/
  | clock (next : Int → σ)
  /-- Opens the null device for reading; the descriptor does not survive an exec. -/
  | openNull (next : Except Errno Descriptor → σ)
  /-- Makes a pipe, reading end first; neither end survives an exec. -/
  | pipe (next : Except Errno (Descriptor × Descriptor) → σ)
  /-- Makes a child process. -/
  | fork (plan : ChildPlan) (next : Except Errno Pid → σ)
  /-- Reads at most `count` bytes; no bytes mean the end of the file. -/
  | read (descriptor : Descriptor) (count : Nat) (next : Except Errno Bytes → σ)
  /-- Writes bytes and says how many were taken.  A pipe without reader fails; it raises no
  signal. -/
  | write (descriptor : Descriptor) (bytes : Bytes) (next : Except Errno Nat → σ)
  /-- Looks whether a child has ended, or waits for its end. -/
  | wait (pid : Pid) (block : Bool) (next : Waited → σ)
  /-- Sends the signal that cannot be caught, and says whether anyone got it. -/
  | kill (target : Target) (next : Bool → σ)

end CueFront
