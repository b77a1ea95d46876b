import CueFront.Host.Calls
import CueFront.Run.Machine

/-!
# The schedule of the host

Runs of the front end and processes of the host act side by side.  At each moment all who
are ready act, one call each, until nobody can; then time moves on to the next moment when
someone is ready.  A call that waits is tried again whenever someone has acted.

The front end is a process without code: its runs are machines (`Run.State`) whose calls
the host answers for it, on the descriptors of that process.
-/

namespace CueFront

namespace Host

/-! ## Processes -/

namespace Kernel

/-- Lets a process go on with other code, after a time. -/
def resume (kernel : Kernel) (pid : Pid) (code : Code) (cost : Nat) : Kernel :=
  kernel.modifyProcess pid fun process =>
    { process with activity := .running code, ready := kernel.now + cost }

/-- The rest of a call of which a part is done. -/
def restOf (call : Syscall) (done : Nat) (next : Reply → Code) : Code :=
  match call with
  | .write descriptor bytes =>
    .call (.write descriptor (bytes.drop done)) fun
      | .number more => next (.number (done + more))
      | reply => next reply
  | _ => next (.number done)

/-- Lets a process act, if it can. -/
def advance (kernel : Kernel) (process : Process) : Bool × Kernel :=
  match process.activity with
  | .running (.exit code) => (true, kernel.terminate process.pid (.exited (code % 256)))
  | .running (.fork next) =>
    let (pid, kernel) := kernel.spawn process (next 0) (kernel.now + forkCost)
    (true, kernel.resume process.pid (next pid) forkCost)
  | .running (.call call next) =>
    match kernel.perform process call with
    | (.answer reply, kernel) => (true, kernel.resume process.pid (next reply) (costOf call))
    | (.partly count, kernel) =>
      (true, kernel.resume process.pid (restOf call count next) (writeCost count))
    | (.become code, kernel) => (true, kernel.resume process.pid code startCost)
    | (.gone, kernel) => (true, kernel)
    | (.wait, kernel) =>
      if process.arrived.isEmpty then (false, kernel)
      else
        let kernel := kernel.modifyProcess process.pid ({ · with sleepEnd := none })
        (true, kernel.resume process.pid (next (.failed .interrupted)) (costOf call))
  | _ => (false, kernel)

/-- Lets the process with a number act, if it is ready. -/
def advanceReady (kernel : Kernel) (pid : Pid) : Bool × Kernel :=
  match kernel.process? pid with
  | some process =>
    if process.stopped || process.isEnded || kernel.now < process.ready then (false, kernel)
    else kernel.advance process
  | none => (false, kernel)

/-- The moment when a process is ready, if that is known. -/
def readyAt? (kernel : Kernel) (process : Process) : Option Nat :=
  match process.activity with
  | .running _ =>
    if process.stopped then none
    else if kernel.now < process.ready then some process.ready
    else process.sleepEnd
  | _ => none

end Kernel

/-! ## The child of a run -/

/-- The call that puts a descriptor in place of another.  One that is in place already only has to
survive the exec. -/
def redirectCall (original target : Descriptor) : Syscall :=
  if original == target then .keepOnExec target else .duplicate original target

/-- The code of a child that could not start its program: it says why, and exits. -/
def failureCode (plan : ChildPlan) (errno : Errno) : Code :=
  .call (.write plan.report errno.encode) fun _ => .exit 127

/-- The code of a child that has still to put some descriptors in place. -/
def redirectCode (plan : ChildPlan) : List (Descriptor × Descriptor) → Code
  | (target, original) :: rest =>
    .call (redirectCall original target) fun
      | .failed errno => failureCode plan errno
      | _ => redirectCode plan rest
  | [] =>
    .call (.exec plan.executable.untilNul (plan.arguments.map (·.untilNul)) plan.environment) fun
      | .failed errno => failureCode plan errno
      | _ => .exit 127

/-- The code of a child of the front end. -/
def childCode (plan : ChildPlan) : Code :=
  .call (.setGroup 0 0) fun _ =>
    .call (.dispose Signal.pipe .standard) fun _ => redirectCode plan plan.redirects

/-! ## Runs -/

/-- When a cancel token is raised. -/
inductive TokenRule where
  /-- From the start, or never. -/
  | fixed (raised : Bool)
  /-- As soon as there is a file. -/
  | onceExists (path : Bytes)
deriving DecidableEq, Repr

/-- A run of the front end. -/
structure Thread where
  /-- How far it is. -/
  state : Run.State
  /-- When it is cancelled. -/
  token : TokenRule
  /-- When it can make its next call. -/
  ready : Nat := 0
  /-- When it stops waiting for a descriptor. -/
  pollEnd : Option Nat := none

/-- The host with the runs of the front end. -/
structure Machine where
  /-- The host. -/
  kernel : Kernel
  /-- The process of the front end. -/
  caller : Pid
  /-- Its runs. -/
  threads : List Thread

namespace Machine

/-- Whether a token is raised. -/
def raised (kernel : Kernel) (caller : Process) : TokenRule → Bool
  | .fixed raised => raised
  | .onceExists path => (kernel.store.find caller.directory path true).isOk

/-- Answers an action of a run; false if it waits. -/
def act (kernel : Kernel) (caller : Process) (pollEnd : Nat) (action : Action) : Bool × Kernel :=
  match action with
  | .setGroup pid => (true, kernel.modifyProcess pid ({ · with group := pid }))
  | .setNonblocking descriptor =>
    match kernel.fileOf? caller descriptor with
    | some (number, file) => (true, kernel.putFile number { file with nonblocking := true })
    | none => (true, kernel)
  | .close descriptor => (true, (kernel.closeDescriptor caller.pid descriptor).2)
  | .poll reading writing _ =>
    (reading.any (kernel.readable caller) || writing.any (kernel.writable caller) ||
      pollEnd ≤ kernel.now, kernel)

/-- Answers a call of a run; nothing if it waits. -/
def serve {σ : Type} (kernel : Kernel) (caller : Process) (token : TokenRule) (pollEnd : Nat)
    (call : Call σ) : Option σ × Kernel :=
  match call with
  | .act action next =>
    let (done, kernel) := act kernel caller pollEnd action
    (if done then some next else none, kernel)
  | .token next => (some (next (raised kernel caller token)), kernel)
  | .clock next => (some (next kernel.now), kernel)
  | .openNull next =>
    let (descriptor, kernel) := kernel.install caller.pid
      ⟨.device .null, utf8 "/dev/null", { reads := true }, 0, false⟩ true
    (some (next (.ok descriptor)), kernel)
  | .pipe next =>
    let (ends, kernel) := kernel.makePipe caller.pid true
    (some (next (.ok ends)), kernel)
  | .fork plan next =>
    let (pid, kernel) := kernel.spawn caller (childCode plan) (kernel.now + Kernel.forkCost)
    (some (next (.ok pid)), kernel)
  | .read descriptor count next =>
    match kernel.fileOf? caller descriptor with
    | none => (some (next (.error .badDescriptor)), kernel)
    | some (number, file) =>
      match kernel.readFile number file count with
      | (.answer result, kernel) => (some (next result), kernel)
      | (.wait, kernel) => (none, kernel)
  | .write descriptor bytes next =>
    match kernel.fileOf? caller descriptor with
    | none => (some (next (.error .badDescriptor)), kernel)
    | some (number, file) =>
      match kernel.writeFile number file bytes with
      | (.answer result, kernel) => (some (next result), kernel)
      | (.wait, kernel) => (none, kernel)
  | .wait pid block next =>
    match kernel.endedChild caller.pid (some pid) with
    | .ok (_, status) => (some (next (.ended status)), kernel.forget pid)
    | .error false => (some (next (.failed .noChild)), kernel)
    | .error true => (if block then none else some (next .running), kernel)
  | .kill target next =>
    let fits (process : Process) : Bool :=
      match target with
      | .group leader => process.group == leader
      | .process pid => process.pid == pid
    let (delivered, kernel) := kernel.signalAll fits Signal.kill
    (some (next delivered), kernel)

/-- The moment when a run stops waiting for a descriptor. -/
def pollEndOf (kernel : Kernel) (thread : Thread) (call : Call Run.State) : Nat :=
  match thread.pollEnd, call with
  | some moment, _ => moment
  | none, .act (.poll _ _ milliseconds) _ => kernel.now + milliseconds * 1000000
  | none, _ => kernel.now

/-- Lets a run act, if it can.  No run acts while the front end is stopped. -/
def advanceThread (kernel : Kernel) (caller : Pid) (thread : Thread) :
    Bool × Kernel × Thread :=
  if kernel.now < thread.ready then (false, kernel, thread)
  else
    match thread.state.call?, (kernel.process? caller).filter (!·.stopped) with
    | some call, some process =>
      let pollEnd := pollEndOf kernel thread call
      match serve kernel process thread.token pollEnd call with
      | (some state, kernel) =>
        (true, kernel, { thread with state, ready := kernel.now + 1000, pollEnd := none })
      | (none, kernel) =>
        (false, kernel,
          { thread with
            pollEnd := match call with
              | .act _ _ => some pollEnd
              | _ => none })
    | _, _ => (false, kernel, thread)

/-- Whether all runs are over. -/
def isDone (machine : Machine) : Bool := machine.threads.all (·.state.call?.isNone)

/-- Lets all runs act. -/
def advanceThreads (kernel : Kernel) (caller : Pid) :
    List Thread → Bool × Kernel × List Thread
  | [] => (false, kernel, [])
  | thread :: threads =>
    let (acted, kernel, thread) := advanceThread kernel caller thread
    let (others, kernel, threads) := advanceThreads kernel caller threads
    (acted || others, kernel, thread :: threads)

/-- Lets all processes act. -/
def advanceProcesses (kernel : Kernel) : List Pid → Bool × Kernel
  | [] => (false, kernel)
  | pid :: pids =>
    let (acted, kernel) := kernel.advanceReady pid
    let (others, kernel) := advanceProcesses kernel pids
    (acted || others, kernel)

/-- The next moment after now when someone is ready. -/
def nextMoment? (machine : Machine) : Option Nat :=
  let kernel := machine.kernel
  let ofProcesses := kernel.processes.filterMap kernel.readyAt?
  let ofThreads := machine.threads.filterMap fun thread =>
    if kernel.now < thread.ready then some thread.ready else thread.pollEnd
  ((ofProcesses ++ ofThreads).filter (kernel.now < ·)).min?

/-- Lets everyone act, or moves time on; nothing if nobody will ever act again. -/
def step? (machine : Machine) : Option Machine :=
  let (threadsActed, kernel, threads) :=
    advanceThreads machine.kernel machine.caller machine.threads
  let (processesActed, kernel) := advanceProcesses kernel (kernel.processes.map (·.pid))
  let machine := { machine with kernel, threads }
  if threadsActed || processesActed then some machine
  else machine.nextMoment?.map fun now => { machine with kernel := { kernel with now } }

/-- Lets the host go on until all runs are over, given more steps than that takes. -/
def run : Nat → Machine → Machine
  | 0, machine => machine
  | steps + 1, machine =>
    if machine.isDone then machine
    else
      match machine.step? with
      | some machine => run steps machine
      | none => machine

/-- What a run is reported as if it never ends. -/
def unfinished : RunReport := .quiet (.error (.fork .wouldBlock))

/-- Runs jobs side by side: the host afterwards, and their reports in order. -/
def runJobs (kernel : Kernel) (caller : Pid) (jobs : List (Run.Job × TokenRule)) :
    Kernel × List RunReport :=
  let threads := jobs.map fun (job, token) => { state := .fresh job, token : Thread }
  let machine := run Task.ampleSteps ⟨kernel, caller, threads⟩
  (machine.kernel, machine.threads.map fun thread => thread.state.report?.getD unfinished)

end Machine

end Host

end CueFront
