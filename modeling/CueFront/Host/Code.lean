import CueFront.Host.Signal
import CueFront.Host.Store
import CueFront.Run.Call

/-!
# Programs of the host

A program is a tree of system calls: each call says what to do with the answer.  The trees
are built as they are run, so a program that loops is built from a bound on its steps that
no run reaches.  `Task` is the type of program parts that hand a value on.
-/

namespace CueFront

namespace Host

/-! ## System calls -/

/-- What a process does about a signal. -/
inductive Disposition where
  /-- It does the default action. -/
  | standard
  /-- It ignores the signal. -/
  | ignore
  /-- It takes note of the signal. -/
  | catch
deriving DecidableEq, Repr

/-- How a file is opened. -/
structure OpenMode where
  /-- It may be read. -/
  reads : Bool := false
  /-- It may be written. -/
  writes : Bool := false
  /-- It is made if it is missing. -/
  creates : Bool := false
  /-- It is emptied. -/
  truncates : Bool := false
  /-- What is written goes to its end. -/
  appends : Bool := false
deriving DecidableEq, Repr

/-- What kind of file a path leads to. -/
inductive FileKind where
  /-- A regular file. -/
  | regular
  /-- A directory. -/
  | directory
  /-- A symbolic link. -/
  | link
  /-- A device. -/
  | device
  /-- A pipe. -/
  | pipe
deriving DecidableEq, Repr

/-- What is known about a file. -/
structure FileInfo where
  /-- Its kind. -/
  kind : FileKind
  /-- Its permissions. -/
  mode : Nat
  /-- Its size. -/
  size : Nat
  /-- Its number. -/
  id : Nat
deriving DecidableEq, Repr

/-- A system call. -/
inductive Syscall where
  /-- Reads at most a number of bytes. -/
  | read (descriptor : Descriptor) (count : Nat)
  /-- Writes bytes. -/
  | write (descriptor : Descriptor) (bytes : Bytes)
  /-- Opens what a path leads to. -/
  | openFile (path : Bytes) (mode : OpenMode)
  /-- Closes a descriptor. -/
  | close (descriptor : Descriptor)
  /-- Puts a copy of a descriptor in place of another. -/
  | duplicate (source target : Descriptor)
  /-- Copies a descriptor to the lowest free one from a number on; it does not survive an exec. -/
  | saveAbove (source : Descriptor) (least : Nat)
  /-- Lets a descriptor survive an exec. -/
  | keepOnExec (descriptor : Descriptor)
  /-- Makes a pipe, reading end first. -/
  | pipe
  /-- Goes on as another program. -/
  | exec (path : Bytes) (arguments environment : List Bytes)
  /-- Waits for a child or any, or looks whether one has ended. -/
  | wait (pid : Option Pid) (block : Bool)
  /-- Sends a signal to a process, a group (a negative number) or the own group (zero). -/
  | kill (target : Int) (signal : Signal)
  /-- Says what is done about a signal. -/
  | dispose (signal : Signal) (disposition : Disposition)
  /-- Takes the signals that were caught since the last time. -/
  | takeSignals
  /-- Asks for the own number. -/
  | pid
  /-- Asks for the number of the parent. -/
  | parentPid
  /-- Puts a process into a group. -/
  | setGroup (pid group : Pid)
  /-- Leads a session and a group of its own. -/
  | newSession
  /-- Waits for a time. -/
  | sleep (nanoseconds : Nat)
  /-- Spends time on computing. -/
  | compute
  /-- Reads the clock, in nanoseconds. -/
  | clock
  /-- Asks about what a path leads to, or about the link there. -/
  | stat (path : Bytes) (follow : Bool)
  /-- Asks about an open file. -/
  | statDescriptor (descriptor : Descriptor)
  /-- Asks where a link leads. -/
  | readLink (path : Bytes)
  /-- Asks for the names in a directory. -/
  | listDirectory (path : Bytes)
  /-- Makes a directory. -/
  | makeDirectory (path : Bytes) (mode : Nat)
  /-- Removes a file. -/
  | unlink (path : Bytes)
  /-- Removes an empty directory. -/
  | removeDirectory (path : Bytes)
  /-- Moves a file to another path. -/
  | rename (source target : Bytes)
  /-- Makes a symbolic link. -/
  | makeLink (target path : Bytes)
  /-- Gives a file one more path. -/
  | hardLink (source path : Bytes)
  /-- Sets the permissions of a file. -/
  | changeMode (path : Bytes) (mode : Nat)
  /-- Goes to a directory. -/
  | changeDirectory (path : Bytes)
  /-- Asks for the working directory. -/
  | workingDirectory
  /-- Sets the permissions that new files do not get; the answer is what they were. -/
  | setMask (mask : Nat)
deriving DecidableEq, Repr

/-- The answer to a system call. -/
inductive Reply where
  /-- The call worked. -/
  | done
  /-- A number. -/
  | number (n : Nat)
  /-- Two numbers. -/
  | pair (a b : Nat)
  /-- Bytes. -/
  | bytes (bytes : Bytes)
  /-- Names in order. -/
  | names (names : List Bytes)
  /-- Signals in the order they came. -/
  | signals (signals : List Signal)
  /-- What is known about a file. -/
  | info (info : FileInfo)
  /-- A child has ended. -/
  | ended (pid : Pid) (status : ExitStatus)
  /-- The call failed. -/
  | failed (errno : Errno)
deriving DecidableEq, Repr

/-! ## Programs -/

/-- A running program. -/
inductive Code where
  /-- It exits. -/
  | exit (code : Nat)
  /-- It makes a system call and goes on with the answer. -/
  | call (call : Syscall) (next : Reply → Code)
  /-- It makes a child that goes on from the same point with the number zero, and goes on
  itself with the number of the child. -/
  | fork (next : Pid → Code)

/-- A part of a program that hands a value on. -/
def Task (α : Type) : Type := (α → Code) → Code

namespace Task

instance : Monad Task where
  pure value := fun next => next value
  bind part rest := fun next => part fun value => rest value next

/-- Makes a system call. -/
def ask (call : Syscall) : Task Reply := fun next => .call call next

/-- Makes a system call whose answer does not matter. -/
def tell (call : Syscall) : Task Unit := fun next => .call call fun _ => next ()

/-- Makes a child: gives zero in the child, and the number of the child in the parent. -/
def fork : Task Pid := fun next => .fork next

/-- Ends the program. -/
def exit {α : Type} (code : Nat) : Task α := fun _ => .exit code

/-- More steps than a program takes. -/
def ampleSteps : Nat := 1000000000000

/-- Writes all bytes; the error number if that fails. -/
def writeAll (descriptor : Descriptor) (bytes : Bytes) : Task (Option Errno) := do
  if bytes.isEmpty then return none
  match ← ask (.write descriptor bytes) with
  | .failed errno => return some errno
  | _ => return none

/-- Reads at most a number of bytes; no bytes at the end of the file. -/
def readSome (descriptor : Descriptor) (count : Nat) : Task (Except Errno Bytes) := do
  match ← ask (.read descriptor count) with
  | .bytes bytes => return .ok bytes
  | .failed errno => return .error errno
  | _ => return .error .inputOutput

/-- Reads everything up to the end of the file, given more steps than that takes. -/
def readRest (descriptor : Descriptor) : Nat → List Bytes → Task (Except Errno Bytes)
  | 0, parts => return .ok parts.reverse.flatten
  | steps + 1, parts => do
    match ← readSome descriptor 65536 with
    | .error errno => return .error errno
    | .ok [] => return .ok parts.reverse.flatten
    | .ok part => readRest descriptor steps (part :: parts)

/-- Reads everything up to the end of the file. -/
def readAll (descriptor : Descriptor) : Task (Except Errno Bytes) :=
  readRest descriptor ampleSteps []

end Task

end Host

end CueFront
