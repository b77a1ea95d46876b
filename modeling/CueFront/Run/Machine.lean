import CueFront.Locale
import CueFront.Run.Call
import CueFront.Run.Invocation

/-!
# Running a tool

`State` is a run in progress and `State.call?` is its next call.  A run makes its pipes,
forks, and learns from the report pipe whether the program could be started.  Then it goes
through passes until the child has ended and both output pipes are closed.

A pass reads the clock and looks at the cancel token.  A raised token or a timeout kills the
child's group, once.  Then the pass waits for a descriptor, writes what the child takes of
its input, reads all output there is, and looks whether the child has ended.

* After a kill the pipes are read for a grace period only: something outside the group may
  hold them open.
* The first reason to kill decides how the run ends.
* A child that closes its input early is no error.  Any other failure to write is one, and
  kills the child.
* Only a run that was not killed has an exit code.
-/

namespace CueFront

namespace Run

/-! ## Constants -/

/-- How long a pass waits for a descriptor, in milliseconds. -/
def pollInterval : Nat := 50

/-- How long pipes are read after a kill, in nanoseconds. -/
def killGrace : Int := 250000000

/-- How much is read at once. -/
def chunkSize : Nat := 4096

/-- The nanoseconds of a millisecond. -/
def nanoseconds : Int := 1000000

/-- The number as a signed 64 bit word holds it. -/
def word64 (n : Int) : Int := Int.bmod n 18446744073709551616

/-- A timeout in nanoseconds, as a 64 bit word. -/
def deadline (timeout : Int) : Int := word64 (timeout * nanoseconds)

/-! ## What a run knows -/

/-- What a run starts from. -/
structure Job where
  /-- The call of the tool. -/
  call : Invocation
  /-- The environment of the caller. -/
  environment : List Bytes
deriving DecidableEq, Repr

/-- The two ends of a pipe. -/
structure PipeEnds where
  /-- Where it is read. -/
  reading : Descriptor
  /-- Where it is written. -/
  writing : Descriptor
deriving DecidableEq, Repr

/-- The ends of the child's input: what the child reads, and what the caller writes if there
is anything to write. -/
structure InputEnds where
  /-- The child's end. -/
  reading : Descriptor
  /-- The caller's end. -/
  writing : Option Descriptor
deriving DecidableEq, Repr

/-- The descriptors of a run that is set up. -/
structure Plumbing where
  /-- The child's input. -/
  input : InputEnds
  /-- The child's output. -/
  output : PipeEnds
  /-- The child's error output. -/
  errors : PipeEnds
  /-- The pipe on which the child reports that it could not start. -/
  report : PipeEnds
deriving DecidableEq, Repr

/-- A run whose child has been forked. -/
structure Live where
  /-- The program. -/
  executable : Bytes
  /-- The timeout in milliseconds. -/
  timeout : Int
  /-- The child. -/
  pid : Pid
  /-- When it was started, in nanoseconds. -/
  started : Int
  /-- When the current pass began. -/
  now : Int
  /-- How the run stands. -/
  state : RunState := .spawned
  /-- The writing end of the child's input, while it is open. -/
  input : Option Descriptor
  /-- The reading end of the child's output, while it is open. -/
  output : Option Descriptor
  /-- The reading end of the child's error output, while it is open. -/
  errors : Option Descriptor
  /-- The input that was not yet taken. -/
  unsent : Bytes
  /-- How many bytes of input were taken. -/
  sent : Nat := 0
  /-- The output read so far, latest part first. -/
  outputParts : List Bytes := []
  /-- The error output read so far, latest part first. -/
  errorParts : List Bytes := []
  /-- Whether the child is known to have ended. -/
  exited : Bool := false
  /-- How it ended, if that is known. -/
  status : Option ExitStatus := none
  /-- Why its input could not be written. -/
  writeFailure : Option Errno := none
  /-- When it was killed. -/
  killedAt : Option Int := none
  /-- What was logged, oldest first. -/
  log : List Log.Entry := []
deriving DecidableEq, Repr

/-- What a run does after a kill. -/
inductive AfterKill where
  /-- It goes on with the pass. -/
  | poll
  /-- It goes on with the output. -/
  | drain
  /-- It waits for the child's end. -/
  | wait
deriving DecidableEq, Repr

/-- A run in progress. -/
inductive State where
  /-- Nothing was done yet. -/
  | fresh (job : Job)
  /-- Making the pipe of the input, or opening the null device. -/
  | openInput (job : Job)
  /-- Making the pipe of the output. -/
  | openOutput (job : Job) (input : InputEnds)
  /-- Making the pipe of the error output. -/
  | openErrors (job : Job) (input : InputEnds) (output : PipeEnds)
  /-- Making the report pipe. -/
  | openReport (job : Job) (input : InputEnds) (output errors : PipeEnds)
  /-- Reading the clock for the first time. -/
  | readStart (job : Job) (ends : Plumbing)
  /-- Making the child. -/
  | fork (job : Job) (ends : Plumbing) (started : Int)
  /-- Reading the report pipe. -/
  | awaitExec (live : Live) (report : Descriptor)
  /-- Waiting for the end of a child that could not start its program. -/
  | reapFailed (live : Live) (errno : Errno)
  /-- At the start of a pass. -/
  | clock (live : Live)
  /-- Looking at the token. -/
  | token (live : Live)
  /-- Sending the kill. -/
  | kill (live : Live) (target : Target) (after : AfterKill)
  /-- Writing input. -/
  | write (live : Live) (descriptor : Descriptor)
  /-- Reading output. -/
  | drainOutput (live : Live) (descriptor : Descriptor)
  /-- Reading error output. -/
  | drainErrors (live : Live) (descriptor : Descriptor)
  /-- Looking whether the child has ended. -/
  | reap (live : Live)
  /-- Waiting for the end of the child after the last pass. -/
  | lastWait (live : Live)
  /-- Reading the clock for the last time. -/
  | readEnd (live : Live)
  /-- Doing what needs no answer, and going on. -/
  | acting (actions : List Action) (after : State)
  /-- The run is over. -/
  | finished (report : RunReport)

/-! ## Steps within a pass -/

namespace Live

/-- Logs an entry. -/
def say (live : Live) (entry : Log.Entry) : Live := { live with log := live.log ++ [entry] }

/-- The descriptors that are open. -/
def openDescriptors (live : Live) : List Descriptor :=
  live.errors.toList ++ live.output.toList ++ live.input.toList

/-- Kills the child's group. -/
def killGroup (live : Live) (after : AfterKill) : State :=
  .kill { live with killedAt := some live.now } (.group live.pid) after

/-- Leaves the passes. -/
def leave (live : Live) : State :=
  if live.exited then .readEnd live else .kill live (.group live.pid) .wait

/-- Starts the next pass, or leaves if there is nothing to wait for. -/
def startPass (live : Live) : State :=
  if live.output.isSome || live.errors.isSome || !live.exited then .clock live else live.leave

/-- Looks whether the child has ended, if that is not known. -/
def toReap (live : Live) : State := if live.exited then live.startPass else .reap live

/-- Reads the error output, if it is open. -/
def toDrainErrors (live : Live) : State :=
  match live.errors with
  | some descriptor => .drainErrors live descriptor
  | none => live.toReap

/-- Reads the output, if it is open. -/
def toDrainOutput (live : Live) : State :=
  match live.output with
  | some descriptor => .drainOutput live descriptor
  | none => live.toDrainErrors

/-- Writes input, if the pipe is open. -/
def toWrite (live : Live) : State :=
  match live.input with
  | some descriptor => .write live descriptor
  | none => live.toDrainOutput

/-- Waits for a descriptor and goes on with the pass. -/
def toPoll (live : Live) : State :=
  .acting [.poll (live.output.toList ++ live.errors.toList) live.input.toList pollInterval]
    live.toWrite

/-- Goes on after the clock was read: while the child was not killed the token is looked at
and then the timeout; after a kill the grace period counts. -/
def afterClock (live : Live) (now : Int) : State :=
  let live := { live with now }
  match live.killedAt with
  | none => .token live
  | some killed =>
    if live.exited && killGrace ≤ now - killed then live.leave else live.toPoll

/-- Goes on after the token was looked at.  The token counts before the timeout. -/
def afterToken (live : Live) (raised : Bool) : State :=
  if raised then { live with state := .cancelled }.killGroup .poll
  else if deadline live.timeout ≤ live.now - live.started then
    { live with state := .timedOut }.killGroup .poll
  else live.toPoll

/-- Goes on after a kill was sent.  Where there is no group, the child alone is killed. -/
def afterKill (live : Live) (target : Target) (after : AfterKill) (delivered : Bool) : State :=
  match target, delivered with
  | .group leader, false => .kill live (.process leader) after
  | _, _ =>
    match after with
    | .poll => live.toPoll
    | .drain => live.toDrainOutput
    | .wait => .lastWait live

/-- Closes the child's input and goes on. -/
def closeInput (live : Live) (descriptor : Descriptor) (after : Live → State) : State :=
  .acting [.close descriptor] (after { live with input := none })

/-- Goes on after a write failed for good. -/
def afterWriteFailure (live : Live) (errno : Errno) : State :=
  if errno == .brokenPipe then
    (live.say (Log.debug (utf8 "ProcessRunner: child closed stdin after " ++
      Decimal.digits live.sent ++ utf8 " bytes"))).toDrainOutput
  else if live.killedAt.isNone then { live with writeFailure := some errno }.killGroup .drain
  else live.toDrainOutput

/-- Goes on after a write. -/
def afterWrite (live : Live) (descriptor : Descriptor) : Except Errno Nat → State
  | .ok 0 => live.closeInput descriptor (·.afterWriteFailure .inputOutput)
  | .ok count =>
    let rest := live.unsent.drop count
    let live := { live with unsent := rest, sent := live.sent + min count live.unsent.length }
    if rest.isEmpty then live.closeInput descriptor toDrainOutput else .write live descriptor
  | .error errno =>
    if errno == .interrupted then .write live descriptor
    else if errno == .wouldBlock then live.toDrainOutput
    else live.closeInput descriptor (·.afterWriteFailure errno)

/-- Goes on after the output was read. -/
def afterOutput (live : Live) (descriptor : Descriptor) (answer : Except Errno Bytes) : State :=
  match answer with
  | .ok (b :: rest) =>
    .drainOutput { live with outputParts := (b :: rest) :: live.outputParts } descriptor
  | .error .interrupted => .drainOutput live descriptor
  | .error .wouldBlock => live.toDrainErrors
  | _ => .acting [.close descriptor] { live with output := none }.toDrainErrors

/-- Goes on after the error output was read. -/
def afterErrors (live : Live) (descriptor : Descriptor) (answer : Except Errno Bytes) : State :=
  match answer with
  | .ok (b :: rest) =>
    .drainErrors { live with errorParts := (b :: rest) :: live.errorParts } descriptor
  | .error .interrupted => .drainErrors live descriptor
  | .error .wouldBlock => live.toReap
  | _ => .acting [.close descriptor] { live with errors := none }.toReap

/-- Goes on after a look at the child.  A child that someone else has waited for has ended,
but nobody knows how. -/
def afterReap (live : Live) (waited : Waited) : State :=
  match waited with
  | .ended status => { live with exited := true, status := some status }.startPass
  | .failed errno =>
    if errno == .noChild then { live with exited := true }.startPass else live.startPass
  | .running => live.startPass

/-! ## The end of a run -/

/-- The output in order. -/
def outputText (live : Live) : Bytes := live.outputParts.reverse.flatten

/-- The error output in order. -/
def errorText (live : Live) : Bytes := live.errorParts.reverse.flatten

/-- The result of a run that is over. -/
def result (live : Live) : RunResult where
  state := if live.state == .running then .completed else live.state
  exitCode := if live.state == .running then live.status.map (·.code) else none
  output := live.outputText
  errors := live.errorText

/-- The last entries of the log. -/
def closingEntries (live : Live) (ended : Int) : List Log.Entry :=
  let result := live.result
  let killed :=
    if live.state == .running then []
    else [Log.warn (utf8 "ProcessRunner: " ++ live.executable ++ utf8 " " ++ live.state.name ++
      utf8 " after " ++ Decimal.signed ((ended - live.started).tdiv nanoseconds) ++ utf8 " ms")]
  let code :=
    match result.exitCode with
    | some code => utf8 " exit=" ++ Decimal.digits code
    | none => []
  killed ++ [Log.debug (utf8 "ProcessRunner: pid " ++ Decimal.digits live.pid ++
    utf8 " finished: " ++ result.state.name ++ code)]

/-- The report of a run that is over. -/
def report (live : Live) (ended : Int) : RunReport :=
  match live.writeFailure with
  | some errno => ⟨live.log, .error (.write errno)⟩
  | none => ⟨live.log ++ live.closingEntries ended, .ok live.result⟩

/-- Closes what is still open and ends the run. -/
def close (live : Live) (report : RunReport) : State :=
  .acting (live.openDescriptors.map .close) (.finished report)

/-! ## The start of a run -/

/-- Goes on once the program runs. -/
def begin (live : Live) : State :=
  let live := { live with state := .running }.say
    (Log.debug (utf8 "ProcessRunner: started pid " ++ Decimal.digits live.pid ++ utf8 ": " ++
      live.executable))
  let nonblocking := (live.output.toList ++ live.errors.toList ++ live.input.toList).map
    Action.setNonblocking
  if live.unsent.isEmpty then
    .acting (nonblocking ++ live.input.toList.map .close) { live with input := none }.startPass
  else .acting nonblocking live.startPass

/-- Goes on after the report pipe was read.  An error number means that the program could not
be started; the end of the pipe means that it was. -/
def afterReport (live : Live) (report : Descriptor) (answer : Except Errno Bytes) : State :=
  match answer with
  | .error .interrupted => .awaitExec live report
  | .ok bytes =>
    .acting [.close report]
      (if bytes.length == Errno.width then .reapFailed live (.decode bytes) else live.begin)
  | .error _ => .acting [.close report] live.begin

end Live

namespace Plumbing

/-- All descriptors of a run, latest first. -/
def all (ends : Plumbing) : List Descriptor :=
  [ends.report.writing, ends.report.reading, ends.errors.writing, ends.errors.reading,
    ends.output.writing, ends.output.reading] ++ ends.input.writing.toList ++ [ends.input.reading]

/-- The descriptors that only the child needs. -/
def childEnds (ends : Plumbing) : List Descriptor :=
  [ends.input.reading, ends.output.writing, ends.errors.writing, ends.report.writing]

/-- What the child is to do. -/
def childPlan (ends : Plumbing) (job : Job) : ChildPlan where
  input := ends.input.reading
  output := ends.output.writing
  errors := ends.errors.writing
  report := ends.report.writing
  executable := job.call.executable
  arguments := job.call.executable :: job.call.arguments
  environment := Locale.childEnvironment job.environment

/-- The run of a child that was forked. -/
def live (ends : Plumbing) (job : Job) (started : Int) (pid : Pid) : Live where
  executable := job.call.executable
  timeout := job.call.timeout
  pid
  started
  now := started
  input := ends.input.writing
  output := some ends.output.reading
  errors := some ends.errors.reading
  unsent := job.call.input.getD []

end Plumbing

/-- Gives up before the fork. -/
def abandon (descriptors : List Descriptor) (error : RunError) : State :=
  .acting (descriptors.map .close) (.finished (.quiet (.error error)))

/-- Goes on with a pipe, or gives up and closes what is open. -/
def withPipe (opened : List Descriptor) (next : PipeEnds → State) :
    Except Errno (Descriptor × Descriptor) → State
  | .ok (reading, writing) => next ⟨reading, writing⟩
  | .error errno => abandon opened (.pipes errno)

/-- The descriptors of the input, latest first. -/
def InputEnds.all (input : InputEnds) : List Descriptor := input.writing.toList ++ [input.reading]

/-- The descriptors of a pipe, latest first. -/
def PipeEnds.all (ends : PipeEnds) : List Descriptor := [ends.writing, ends.reading]

/-- The result of a run that was cancelled before it started. -/
def cancelledBeforeStart (job : Job) : RunReport :=
  .note (Log.debug (utf8 "ProcessRunner: cancelled before start: " ++ job.call.executable))
    (.ok { state := .cancelled })

/-! ## The machine -/

/-- The next call of a run, unless it is over. -/
def State.call? : State → Option (Call State)
  | .fresh job => some <| .token fun raised =>
    if raised then .finished (cancelledBeforeStart job) else .openInput job
  | .openInput job => some <|
    match job.call.input with
    | some _ => .pipe (withPipe [] fun ends => .openOutput job ⟨ends.reading, some ends.writing⟩)
    | none => .openNull fun
      | .ok descriptor => .openOutput job ⟨descriptor, none⟩
      | .error errno => abandon [] (.pipes errno)
  | .openOutput job input => some <| .pipe (withPipe input.all fun output =>
    .openErrors job input output)
  | .openErrors job input output => some <| .pipe (withPipe (output.all ++ input.all)
    fun errors => .openReport job input output errors)
  | .openReport job input output errors => some <| .pipe (withPipe
    (errors.all ++ output.all ++ input.all) fun report =>
      .readStart job ⟨input, output, errors, report⟩)
  | .readStart job ends => some <| .clock (.fork job ends ·)
  | .fork job ends started => some <| .fork (ends.childPlan job) fun
    | .error errno => abandon ends.all (.fork errno)
    | .ok pid => .acting (.setGroup pid :: ends.childEnds.map .close)
      (.awaitExec (ends.live job started pid) ends.report.reading)
  | .awaitExec live report => some <| .read report Errno.width (live.afterReport report)
  | .reapFailed live errno => some <| .wait live.pid true fun
    | .failed .interrupted => .reapFailed live errno
    | _ => live.close ⟨live.log, .error (.start live.executable errno)⟩
  | .clock live => some <| .clock live.afterClock
  | .token live => some <| .token live.afterToken
  | .kill live target after => some <| .kill target (live.afterKill target after)
  | .write live descriptor => some <| .write descriptor live.unsent (live.afterWrite descriptor)
  | .drainOutput live descriptor => some <|
    .read descriptor chunkSize (live.afterOutput descriptor)
  | .drainErrors live descriptor => some <|
    .read descriptor chunkSize (live.afterErrors descriptor)
  | .reap live => some <| .wait live.pid false live.afterReap
  | .lastWait live => some <| .wait live.pid true fun
    | .failed .interrupted => .lastWait live
    | .ended status => .readEnd { live with exited := true, status := some status }
    | _ => .readEnd live
  | .readEnd live => some <| .clock fun ended => live.close (live.report ended)
  | .acting [] after => after.call?
  | .acting (action :: actions) after => some <| .act action (.acting actions after)
  | .finished _ => none

/-- The report of a run that is over. -/
def State.report? : State → Option RunReport
  | .finished report => some report
  | .acting [] after => after.report?
  | _ => none

end Run

end CueFront
