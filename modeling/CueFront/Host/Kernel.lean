import CueFront.Host.Code

/-!
# The state of the host

The host has files, pipes, open files and processes.  A descriptor of a process is a slot
that names an open file, so that processes share offsets after a fork.  An open file exists
while a slot names it, and a pipe exists while an open file is one of its ends: how many can
read or write a pipe is read off the open files, and nothing is counted.

Time is a number of nanoseconds.  Only the schedule moves it.
-/

namespace CueFront

namespace Host

/-! ## Pipes -/

/-- The bytes in a pipe. -/
structure Pipe where
  /-- The parts to be read next. -/
  front : List Bytes := []
  /-- The parts written last, the latest first. -/
  back : List Bytes := []
  /-- How many bytes there are. -/
  size : Nat := 0

namespace Pipe

/-- How many bytes a pipe holds. -/
def capacity : Nat := 65536

/-- Up to this many bytes are written as a whole. -/
def atomicSize : Nat := 4096

/-- How many bytes can be added. -/
def room (pipe : Pipe) : Nat := capacity - pipe.size

/-- Adds bytes. -/
def push (pipe : Pipe) (bytes : Bytes) : Pipe :=
  if bytes.isEmpty then pipe
  else { pipe with back := bytes :: pipe.back, size := pipe.size + bytes.length }

/-- Takes bytes from parts: what was taken, oldest first, and what is left. -/
def take (count : Nat) : List Bytes → List Bytes × List Bytes
  | [] => ([], [])
  | part :: parts =>
    if count == 0 then ([], part :: parts)
    else if part.length ≤ count then
      let (taken, rest) := take (count - part.length) parts
      (part :: taken, rest)
    else ([part.take count], part.drop count :: parts)

/-- Takes at most a number of bytes. -/
def pull (pipe : Pipe) (count : Nat) : Bytes × Pipe :=
  let (taken, front) := take count (pipe.front ++ pipe.back.reverse)
  let bytes := taken.flatten
  (bytes, { front, back := [], size := pipe.size - bytes.length })

end Pipe

/-! ## Open files -/

/-- What an open file reads and writes. -/
inductive Source where
  /-- A regular file. -/
  | file (id : FileId)
  /-- A directory. -/
  | directory (id : FileId)
  /-- A device. -/
  | device (kind : Device)
  /-- The reading end of a pipe. -/
  | pipeReader (pipe : Nat)
  /-- The writing end of a pipe. -/
  | pipeWriter (pipe : Nat)
  /-- A text made when the file was opened. -/
  | text (bytes : Bytes)
deriving DecidableEq, Repr

/-- An open file. -/
structure OpenFile where
  /-- What it reads and writes. -/
  source : Source
  /-- The path it was opened by, or what stands for it. -/
  name : Bytes
  /-- How it was opened. -/
  mode : OpenMode
  /-- Where the next byte is read or written. -/
  offset : Nat := 0
  /-- Whether reading and writing return at once. -/
  nonblocking : Bool := false
deriving Repr

/-- A descriptor's entry in the table of a process. -/
structure Slot where
  /-- The number of the open file. -/
  file : Nat
  /-- Whether an exec closes the descriptor. -/
  closeOnExec : Bool
deriving DecidableEq, Repr

/-! ## Processes -/

/-- What a process is doing. -/
inductive Activity where
  /-- It runs a program. -/
  | running (code : Code)
  /-- It is the front end itself, whose calls come from outside. -/
  | serving
  /-- It has ended, and nobody has waited for it. -/
  | ended (status : ExitStatus)

/-- A process. -/
structure Process where
  /-- Its number. -/
  pid : Pid
  /-- Its parent. -/
  parent : Pid
  /-- The leader of its group. -/
  group : Pid
  /-- The leader of its session. -/
  session : Pid
  /-- The name of its program. -/
  command : Bytes
  /-- Its descriptors. -/
  slots : List (Descriptor × Slot)
  /-- Its working directory. -/
  directory : Place
  /-- The permissions that its new files do not get. -/
  mask : Nat
  /-- The signals it ignores. -/
  ignored : List Signal := []
  /-- The signals it catches. -/
  caught : List Signal := []
  /-- The signals it has caught and not yet looked at. -/
  arrived : List Signal := []
  /-- Whether a signal has stopped it. -/
  stopped : Bool := false
  /-- When it can make its next call. -/
  ready : Nat := 0
  /-- When the sleep it is in is over. -/
  sleepEnd : Option Nat := none
  /-- What it is doing. -/
  activity : Activity

namespace Process

/-- Whether the process has ended. -/
def isEnded (process : Process) : Bool :=
  match process.activity with
  | .ended _ => true
  | _ => false

/-- The slot of a descriptor. -/
def slot? (process : Process) (descriptor : Descriptor) : Option Slot :=
  process.slots.lookup descriptor

/-- The lowest descriptor from `least` on that is not in use. -/
def freeFrom (process : Process) (least : Descriptor) : Descriptor :=
  go process.slots.length least
where
  /-- Tries one descriptor after the other. -/
  go : Nat → Descriptor → Descriptor
    | 0, descriptor => descriptor
    | tries + 1, descriptor =>
      if (process.slots.lookup descriptor).isSome then go tries (descriptor + 1) else descriptor

/-- Puts a slot at a descriptor. -/
def withSlot (process : Process) (descriptor : Descriptor) (slot : Slot) : Process :=
  { process with slots := (descriptor, slot) :: process.slots.filter (·.1 != descriptor) }

/-- Takes away a descriptor. -/
def withoutSlot (process : Process) (descriptor : Descriptor) : Process :=
  { process with slots := process.slots.filter (·.1 != descriptor) }

end Process

/-! ## The host -/

/-- A program of the host: its arguments, its own name first, and its environment give the
code that runs. -/
abbrev Loader := Bytes → List Bytes → List Bytes → Option Code

/-- The whole state of the host. -/
structure Kernel where
  /-- The files. -/
  store : Store
  /-- The pipes by number. -/
  pipes : List (Nat × Pipe) := []
  /-- The open files by number. -/
  openFiles : List (Nat × OpenFile) := []
  /-- The processes, oldest first. -/
  processes : List Process := []
  /-- The number of the next open file or pipe. -/
  nextNumber : Nat := 1
  /-- The number of the next process. -/
  nextPid : Pid
  /-- The time in nanoseconds. -/
  now : Nat := 0
  /-- The programs. -/
  loader : Loader

namespace Kernel

/-- The process that is the parent of those who have lost theirs. -/
def initPid : Pid := 1

/-- The process with a number. -/
def process? (kernel : Kernel) (pid : Pid) : Option Process :=
  kernel.processes.find? (·.pid == pid)

/-- Puts a process in place of the one with its number. -/
def putProcess (kernel : Kernel) (process : Process) : Kernel :=
  { kernel with
    processes := kernel.processes.map fun other =>
      if other.pid == process.pid then process else other }

/-- Changes a process. -/
def modifyProcess (kernel : Kernel) (pid : Pid) (change : Process → Process) : Kernel :=
  { kernel with
    processes := kernel.processes.map fun process =>
      if process.pid == pid then change process else process }

/-- The open file with a number. -/
def openFile? (kernel : Kernel) (number : Nat) : Option OpenFile :=
  kernel.openFiles.lookup number

/-- The open file behind a descriptor of a process. -/
def fileOf? (kernel : Kernel) (process : Process) (descriptor : Descriptor) :
    Option (Nat × OpenFile) := do
  let slot ← process.slot? descriptor
  let file ← kernel.openFile? slot.file
  return (slot.file, file)

/-- Puts an open file in place of the one with its number. -/
def putFile (kernel : Kernel) (number : Nat) (file : OpenFile) : Kernel :=
  { kernel with
    openFiles := kernel.openFiles.map fun entry =>
      if entry.1 == number then (number, file) else entry }

/-- The pipe with a number. -/
def pipe? (kernel : Kernel) (number : Nat) : Option Pipe := kernel.pipes.lookup number

/-- Puts a pipe in place of the one with its number. -/
def putPipe (kernel : Kernel) (number : Nat) (pipe : Pipe) : Kernel :=
  { kernel with
    pipes := kernel.pipes.map fun entry =>
      if entry.1 == number then (number, pipe) else entry }

/-- Whether anyone can still write a pipe. -/
def hasWriter (kernel : Kernel) (pipe : Nat) : Bool :=
  kernel.openFiles.any (·.2.source == .pipeWriter pipe)

/-- Whether anyone can still read a pipe. -/
def hasReader (kernel : Kernel) (pipe : Nat) : Bool :=
  kernel.openFiles.any (·.2.source == .pipeReader pipe)

/-! ## Descriptors -/

/-- Adds an open file; its number. -/
def addFile (kernel : Kernel) (file : OpenFile) : Nat × Kernel :=
  (kernel.nextNumber,
    { kernel with
      openFiles := (kernel.nextNumber, file) :: kernel.openFiles
      nextNumber := kernel.nextNumber + 1 })

/-- Drops an open file that no slot names, and a pipe without ends. -/
def release (kernel : Kernel) (number : Nat) : Kernel :=
  if kernel.processes.any fun process => process.slots.any (·.2.file == number) then kernel
  else
    match kernel.openFile? number with
    | none => kernel
    | some file =>
      let kernel := { kernel with openFiles := kernel.openFiles.filter (·.1 != number) }
      match file.source with
      | .pipeReader pipe | .pipeWriter pipe =>
        if kernel.hasReader pipe || kernel.hasWriter pipe then kernel
        else { kernel with pipes := kernel.pipes.filter (·.1 != pipe) }
      | _ => kernel

/-- Gives a process an open file at its lowest free descriptor. -/
def install (kernel : Kernel) (pid : Pid) (file : OpenFile) (closeOnExec : Bool) :
    Descriptor × Kernel :=
  let (number, kernel) := kernel.addFile file
  match kernel.process? pid with
  | none => (0, kernel)
  | some process =>
    let descriptor := process.freeFrom 0
    (descriptor, kernel.putProcess (process.withSlot descriptor ⟨number, closeOnExec⟩))

/-- Closes a descriptor of a process; false if it is not open. -/
def closeDescriptor (kernel : Kernel) (pid : Pid) (descriptor : Descriptor) : Bool × Kernel :=
  match kernel.process? pid with
  | none => (false, kernel)
  | some process =>
    match process.slot? descriptor with
    | none => (false, kernel)
    | some slot => (true, (kernel.putProcess (process.withoutSlot descriptor)).release slot.file)

/-- Makes a pipe and gives a process its ends, reading end first. -/
def makePipe (kernel : Kernel) (pid : Pid) (closeOnExec : Bool) :
    (Descriptor × Descriptor) × Kernel :=
  let pipe := kernel.nextNumber
  let name := utf8 "pipe:[" ++ Decimal.digits pipe ++ utf8 "]"
  let kernel :=
    { kernel with pipes := (pipe, {}) :: kernel.pipes, nextNumber := kernel.nextNumber + 1 }
  let (reading, kernel) :=
    kernel.install pid ⟨.pipeReader pipe, name, { reads := true }, 0, false⟩ closeOnExec
  let (writing, kernel) :=
    kernel.install pid ⟨.pipeWriter pipe, name, { writes := true }, 0, false⟩ closeOnExec
  ((reading, writing), kernel)

/-! ## Reading and writing -/

/-- What comes of an attempt to make a call. -/
inductive Attempt (α : Type) where
  /-- The call is answered. -/
  | answer (value : α)
  /-- It cannot be answered yet. -/
  | wait
deriving Repr

/-- The bytes of a program's file. -/
def programBytes : Bytes := [127] ++ utf8 "ELF"

/-- Reads an open file. -/
def readFile (kernel : Kernel) (number : Nat) (file : OpenFile) (count : Nat) :
    Attempt (Except Errno Bytes) × Kernel :=
  let fromBytes (bytes : Bytes) :=
    let part := (bytes.drop file.offset).take count
    (Attempt.answer (.ok part),
      kernel.putFile number { file with offset := file.offset + part.length })
  if !file.mode.reads then (.answer (.error .badDescriptor), kernel)
  else
    match file.source with
    | .text bytes => fromBytes bytes
    | .file id =>
      match kernel.store.node? id with
      | some ⟨.data bytes, _⟩ => fromBytes bytes
      | some ⟨.program _, _⟩ => fromBytes programBytes
      | _ => (.answer (.error .inputOutput), kernel)
    | .directory _ => (.answer (.error .isDirectory), kernel)
    | .device .null => (.answer (.ok []), kernel)
    | .device _ => (.answer (.ok (List.replicate count 0)), kernel)
    | .pipeWriter _ => (.answer (.error .badDescriptor), kernel)
    | .pipeReader pipe =>
      match kernel.pipe? pipe with
      | none => (.answer (.ok []), kernel)
      | some content =>
        if content.size > 0 then
          let (bytes, content) := content.pull count
          (.answer (.ok bytes), kernel.putPipe pipe content)
        else if !kernel.hasWriter pipe then (.answer (.ok []), kernel)
        else if file.nonblocking then (.answer (.error .wouldBlock), kernel)
        else (.wait, kernel)

/-- Puts bytes at an offset of a text, which grows as needed. -/
def overwrite (old : Bytes) (offset : Nat) (bytes : Bytes) : Bytes :=
  if offset == old.length then old ++ bytes
  else
    old.take offset ++ List.replicate (offset - old.length) 0 ++ bytes ++
      old.drop (offset + bytes.length)

/-- Writes to an open file and says how many bytes were taken.  A pipe takes a short text as
a whole. -/
def writeFile (kernel : Kernel) (number : Nat) (file : OpenFile) (bytes : Bytes) :
    Attempt (Except Errno Nat) × Kernel :=
  if !file.mode.writes then (.answer (.error .badDescriptor), kernel)
  else
    match file.source with
    | .file id =>
      match kernel.store.node? id with
      | some ⟨.data old, mode⟩ =>
        let offset := if file.mode.appends then old.length else file.offset
        let content := overwrite old offset bytes
        let kernel := { kernel with store := kernel.store.put id ⟨.data content, mode⟩ }
        (.answer (.ok bytes.length),
          kernel.putFile number { file with offset := offset + bytes.length })
      | _ => (.answer (.error .inputOutput), kernel)
    | .device .full => (.answer (.error ⟨28⟩), kernel)
    | .device _ => (.answer (.ok bytes.length), kernel)
    | .pipeWriter pipe =>
      match kernel.pipe? pipe with
      | none => (.answer (.error .brokenPipe), kernel)
      | some content =>
        if !kernel.hasReader pipe then (.answer (.error .brokenPipe), kernel)
        else
          let part := bytes.take content.room
          let whole := (bytes.drop Pipe.atomicSize).isEmpty
          if bytes.isEmpty then (.answer (.ok 0), kernel)
          else if part.isEmpty || (whole && part.length < bytes.length) then
            if file.nonblocking then (.answer (.error .wouldBlock), kernel) else (.wait, kernel)
          else (.answer (.ok part.length), kernel.putPipe pipe (content.push part))
    | _ => (.answer (.error .badDescriptor), kernel)

/-- Whether reading a descriptor would not wait. -/
def readable (kernel : Kernel) (process : Process) (descriptor : Descriptor) : Bool :=
  match kernel.fileOf? process descriptor with
  | some (_, ⟨.pipeReader pipe, _, _, _, _⟩) =>
    !kernel.hasWriter pipe || ((kernel.pipe? pipe).map (·.size)).getD 0 > 0
  | _ => true

/-- Whether writing a descriptor would not wait. -/
def writable (kernel : Kernel) (process : Process) (descriptor : Descriptor) : Bool :=
  match kernel.fileOf? process descriptor with
  | some (_, ⟨.pipeWriter pipe, _, _, _, _⟩) =>
    !kernel.hasReader pipe ||
      Pipe.atomicSize ≤ ((kernel.pipe? pipe).map (·.room)).getD Pipe.capacity
  | _ => true

/-! ## The end of processes, and signals -/

/-- Ends a process.  Its children go to the first process, which waits for all of them. -/
def terminate (kernel : Kernel) (pid : Pid) (status : ExitStatus) : Kernel :=
  match kernel.process? pid with
  | none => kernel
  | some process =>
    let kernel := kernel.putProcess
      { process with slots := [], activity := .ended status, sleepEnd := none }
    let kernel := process.slots.foldl (fun kernel slot => kernel.release slot.2.file) kernel
    let processes := kernel.processes.map fun other =>
      if other.parent == pid then { other with parent := initPid } else other
    let known (parent : Pid) := processes.any fun other => other.pid == parent && !other.isEnded
    { kernel with
      processes := processes.filter fun other => !other.isEnded || known other.parent }

/-- What a signal does to a process. -/
def deliver (kernel : Kernel) (process : Process) (signal : Signal) : Kernel :=
  if process.isEnded || signal == 0 then kernel
  else if signal == Signal.kill then kernel.terminate process.pid (.signaled signal)
  else if signal == Signal.stop then kernel.putProcess { process with stopped := true }
  else
    let process := if signal == Signal.continued then { process with stopped := false } else process
    let kernel := kernel.putProcess process
    if process.ignored.contains signal then kernel
    else if process.caught.contains signal then
      if process.arrived.contains signal then kernel
      else kernel.putProcess { process with arrived := process.arrived ++ [signal] }
    else
      match Signal.effect signal with
      | .terminate => kernel.terminate process.pid (.signaled signal)
      | .stop => kernel.putProcess { process with stopped := true }
      | _ => kernel

/-- Sends a signal to the processes that fit; false if there are none. -/
def signalAll (kernel : Kernel) (fits : Process → Bool) (signal : Signal) : Bool × Kernel :=
  let pids := (kernel.processes.filter fits).map (·.pid)
  (!pids.isEmpty,
    pids.foldl (fun kernel pid =>
      match kernel.process? pid with
      | some process => kernel.deliver process signal
      | none => kernel) kernel)

/-- What waiting for a child of a process gives now: the child that has ended, or whether
there is any child to wait for. -/
def endedChild (kernel : Kernel) (parent : Pid) (pid : Option Pid) :
    Except Bool (Pid × ExitStatus) :=
  let children := kernel.processes.filter fun process =>
    process.parent == parent && (match pid with | some pid => process.pid == pid | none => true)
  let ended := children.filterMap fun process =>
    match process.activity with
    | .ended status => some (process.pid, status)
    | _ => none
  match ended with
  | child :: _ => .ok child
  | [] => .error !children.isEmpty

/-- Forgets a process that has been waited for. -/
def forget (kernel : Kernel) (pid : Pid) : Kernel :=
  { kernel with processes := kernel.processes.filter (·.pid != pid) }

/-! ## New processes -/

/-- Makes a child of a process.  It has the same descriptors and runs its own code. -/
def spawn (kernel : Kernel) (parent : Process) (code : Code) (ready : Nat) : Pid × Kernel :=
  let pid := kernel.nextPid
  let child :=
    { parent with
      pid, parent := parent.pid, arrived := [], stopped := false, ready
      sleepEnd := none, activity := .running code }
  (pid,
    { kernel with processes := kernel.processes ++ [child], nextPid := pid + 1 })

end Kernel

end Host

end CueFront
