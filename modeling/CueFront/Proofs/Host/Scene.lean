import CueFront.Proofs.Run.Wiring
import CueFront.Proofs.Host.Programs

/-!
# Runs side by side

A scene is the host with any number of runs of one front end, and what is to be known about how
it came about: which run has made which pipe, and which process descends from the child of which
run.  `Turn` lists all that can happen next, in any order: some run gets its next call answered
or refused, some process takes its next step, or time passes.  Programs are free to do what they
like; who reaches through the process table for what only others hold is noted as an intruder.
-/

namespace CueFront

namespace Host

open Run (State)

/-- A pipe that a run has made. -/
structure Made where
  /-- Its number. -/
  number : Nat
  /-- The run that made it. -/
  run : Nat
  /-- What it is for. -/
  line : Line
deriving DecidableEq, Repr

/-- The end that the run's child has in place of a standard descriptor, and of which. -/
def Made.childEnd? (made : Made) : Option (Descriptor × Source) :=
  made.line.childEnd? (.pipeReader made.number) (.pipeWriter made.number)

/-- How a process stands to the runs. -/
inductive Standing where
  /-- It comes from none of them. -/
  | outside
  /-- It is the child of a run and has not executed its program yet. -/
  | preparing (run : Nat)
  /-- It is the child of a run, has executed its program and done nothing since. -/
  | started (run : Nat)
  /-- It is the child of a run at work, or descends from such a child. -/
  | working (run : Nat)
  /-- It has opened what only others held, or descends from a process that has. -/
  | intruding
deriving DecidableEq, Repr

namespace Standing

/-- How a process stands to the runs after its next step. -/
def next (becomes : Bool) : Standing → Standing
  | .outside => .outside
  | .preparing run => if becomes then .started run else .preparing run
  | .started run | .working run => .working run
  | .intruding => .intruding

/-- The process executes a program that a run has started. -/
def serves (run : Nat) : Standing → Prop
  | .started other | .working other => other = run
  | .outside | .preparing _ | .intruding => False

end Standing

/-- The host with runs of the front end. -/
structure Scene where
  /-- The host. -/
  kernel : Kernel
  /-- The process of the front end. -/
  caller : Pid
  /-- Its runs. -/
  runs : List State
  /-- The pipes that the runs have made. -/
  made : List Made
  /-- How the processes stand to the runs. -/
  standing : Pid → Standing

/-- What happens next. -/
inductive Turn where
  /-- The next call of a run is answered. -/
  | answer (index : Nat) (token : TokenRule) (pollEnd : Nat)
  /-- The next call of a run fails. -/
  | refuse (index : Nat) (errno : Errno)
  /-- A process takes its next step. -/
  | advance (pid : Pid)
  /-- Time passes. -/
  | clock (now : Nat)

/-- The answer to a call that fails, and where it leads, if the call can fail. -/
def refused? {σ : Type} (errno : Errno) : Call σ → Option (Event × σ)
  | .openNull next => some (.openNull (.error errno), next (.error errno))
  | .pipe next => some (.pipe (.error errno), next (.error errno))
  | .fork plan next => some (.fork plan (.error errno), next (.error errno))
  | .read descriptor count next =>
    some (.read descriptor count (.error errno), next (.error errno))
  | .write descriptor bytes next =>
    some (.write descriptor bytes (.error errno), next (.error errno))
  | .wait pid block next => some (.wait pid block (.failed errno), next (.failed errno))
  | _ => none

/-- The next call of a process lets it go on as another program. -/
def Kernel.becomes (kernel : Kernel) (process : Process) : Bool :=
  match process.activity with
  | .running (.call (.exec path arguments environment) _) =>
    (kernel.execute process path arguments environment).isOk
  | _ => false

namespace Scene

/-- The runs before any of them has done anything. -/
def start (kernel : Kernel) (caller : Pid) (jobs : List Run.Job) : Scene where
  kernel
  caller
  runs := jobs.map .fresh
  made := []
  standing := fun _ => .outside

/-- The pipes that are made once a run has got its call answered. -/
def madeBy (scene : Scene) (index : Nat) (state : State) : Call State → List Made
  | .pipe _ =>
    match state.line? with
    | some line => ⟨scene.kernel.nextNumber, index, line⟩ :: scene.made
    | none => scene.made
  | _ => scene.made

/-- How the processes stand once a run has got its call answered. -/
def standingBy (scene : Scene) (index : Nat) : Call State → Pid → Standing
  | .fork _ _, pid =>
    if pid = scene.kernel.nextPid then .preparing index else scene.standing pid
  | _, pid => scene.standing pid

/-- How the processes stand once one of them has taken a step.  Whoever is new is its child and
stands as it does itself. -/
def standingAfter (scene : Scene) (process : Process) (pid : Pid) : Standing :=
  if pid = process.pid ∨ scene.kernel.nextPid ≤ pid then
    if scene.kernel.intrudes process then .intruding
    else (scene.standing process.pid).next (scene.kernel.becomes process)
  else scene.standing pid

/-- The scene after a turn, if the turn can be taken. -/
def take? (scene : Scene) : Turn → Option Scene
  | .answer index token pollEnd => do
    let process ← scene.kernel.process? scene.caller
    let state ← scene.runs[index]?
    let call ← state.call?
    if process.isEnded then none
    else
      match Machine.serve scene.kernel process token pollEnd call with
      | (some next, kernel) =>
        some { scene with
          kernel
          runs := scene.runs.set index next
          made := scene.madeBy index state call
          standing := scene.standingBy index call }
      | (none, _) => none
  | .refuse index errno => do
    let state ← scene.runs[index]?
    let call ← state.call?
    let (_, next) ← refused? errno call
    some { scene with runs := scene.runs.set index next }
  | .advance pid => do
    let process ← scene.kernel.process? pid
    some { scene with
      kernel := (scene.kernel.advance process).2
      standing := scene.standingAfter process }
  | .clock now => some { scene with kernel := { scene.kernel with now } }

/-- The scene after turns in order, if they can all be taken. -/
def play (scene : Scene) (turns : List Turn) : Option Scene := turns.foldlM take? scene

end Scene

/-! ## What a call of a run does to descriptors -/

namespace Kernel

variable {kernel after : Kernel} {process : Process}

/-- An event that neither opens nor closes anything and makes no child. -/
def isPlain : Event → Bool
  | .act (.close _) | .openNull _ | .pipe _ | .fork _ _ => false
  | _ => true

/-- What an answered call of the front end does to descriptors. -/
inductive Effect (kernel after : Kernel) (pid : Pid) : Event → Prop where
  /-- Nothing. -/
  | quiet {event : Event} (quiet : kernel.Quiet after) (plain : isPlain event = true) :
      Effect kernel after pid event
  /-- It closes one. -/
  | closes (descriptor : Descriptor) (sound : after.Sound)
      (changes : kernel.Changes after pid fun other source closeOnExec =>
        other ≠ descriptor ∧ kernel.Holds pid other source closeOnExec) :
      Effect kernel after pid (.act (.close descriptor))
  /-- It opens the null device. -/
  | opensNull (descriptor : Descriptor)
      (opens : kernel.Opens after pid descriptor (.device .null) true) :
      Effect kernel after pid (.openNull (.ok descriptor))
  /-- It makes a pipe. -/
  | opensPipe (reading writing : Descriptor)
      (opens : kernel.OpensPipe after pid reading writing true) :
      Effect kernel after pid (.pipe (.ok (reading, writing)))
  /-- It makes a child. -/
  | forks (plan : ChildPlan) (spawns : kernel.Spawns after pid (childCode plan)) :
      Effect kernel after pid (.fork plan (.ok kernel.nextPid))

theorem effect_act (sound : kernel.Sound) (member : process ∈ kernel.processes)
    (alive : process.isEnded = false) {pollEnd : Nat} (action : Action) :
    kernel.Effect (Machine.act kernel process pollEnd action).2 process.pid (.act action) := by
  cases action with
  | setGroup pid => exact .quiet (sound.quiet_modify fun _ _ _ => ⟨rfl, rfl, rfl⟩) rfl
  | setNonblocking descriptor =>
    refine .quiet ?_ rfl
    simp only [Machine.act]
    split
    · next number file found =>
      obtain ⟨-, -, opened⟩ := mem_of_fileOf? found
      exact sound.quiet_putFile opened rfl
    · exact .refl sound
  | close descriptor =>
    exact .closes descriptor (sound_close sound _ _)
      (changes_close sound ⟨process, member, rfl, alive, rfl⟩ descriptor)
  | poll reading writing milliseconds => exact .quiet (.refl sound) rfl

/-- Every answer is an event that follows the call, and the event tells its effect. -/
theorem effect_serve {σ : Type} (sound : kernel.Sound) (member : process ∈ kernel.processes)
    (alive : process.isEnded = false) {token : TokenRule} {pollEnd : Nat} {call : Call σ}
    {next : σ} (served : Machine.serve kernel process token pollEnd call = (some next, after)) :
    ∃ event, call.follow event = some next ∧ kernel.Effect after process.pid event := by
  have running : kernel.Runs process.pid process.activity := ⟨process, member, rfl, alive, rfl⟩
  cases call with
  | act action next' =>
    simp only [Machine.serve, Prod.mk.injEq, Option.ite_none_right_eq_some, Option.some.injEq]
      at served
    obtain ⟨⟨-, rfl⟩, rfl⟩ := served
    exact ⟨.act action, Call.follow_act.mpr ⟨rfl, rfl⟩, effect_act sound member alive action⟩
  | token next =>
    cases served
    exact ⟨.token _, rfl, .quiet (.refl sound) rfl⟩
  | clock next =>
    cases served
    exact ⟨.clock _, rfl, .quiet (.refl sound) rfl⟩
  | openNull next =>
    cases served
    exact ⟨.openNull (.ok _), rfl, .opensNull _
      (opens_install sound running _ (fun _ same => by cases same) true)⟩
  | pipe next =>
    cases served
    exact ⟨.pipe (.ok _), rfl, .opensPipe _ _ (opens_makePipe sound running true)⟩
  | fork plan next =>
    cases served
    exact ⟨.fork plan (.ok _), Call.follow_fork.mpr ⟨_, rfl, rfl⟩,
      .forks plan (spawns sound member _ _)⟩
  | read descriptor count next =>
    simp only [Machine.serve] at served
    split at served
    · cases served
      exact ⟨.read descriptor count _, Call.follow_read.mpr ⟨_, rfl, rfl⟩, .quiet (.refl sound) rfl⟩
    · next number file found =>
      obtain ⟨-, -, opened⟩ := mem_of_fileOf? found
      have quiet := quiet_readFile sound opened count
      split at served
      · next result after answered =>
        cases served
        rw [answered] at quiet
        exact ⟨.read descriptor count _, Call.follow_read.mpr ⟨_, rfl, rfl⟩, .quiet quiet rfl⟩
      · cases served
  | write descriptor bytes next =>
    simp only [Machine.serve] at served
    split at served
    · cases served
      exact ⟨.write descriptor bytes _, Call.follow_write.mpr ⟨_, rfl, rfl⟩,
        .quiet (.refl sound) rfl⟩
    · next number file found =>
      obtain ⟨-, -, opened⟩ := mem_of_fileOf? found
      have quiet := quiet_writeFile sound opened bytes
      split at served
      · next result after answered =>
        cases served
        rw [answered] at quiet
        exact ⟨.write descriptor bytes _, Call.follow_write.mpr ⟨_, rfl, rfl⟩,
          .quiet quiet rfl⟩
      · cases served
  | wait pid block next =>
    simp only [Machine.serve] at served
    split at served
    · next child status found =>
      cases served
      cases (mem_of_endedChild found).2 pid rfl
      exact ⟨.wait pid block _, Call.follow_wait.mpr ⟨_, rfl, rfl⟩,
        .quiet (quiet_forget sound found) rfl⟩
    · cases served
      exact ⟨.wait pid block _, Call.follow_wait.mpr ⟨_, rfl, rfl⟩, .quiet (.refl sound) rfl⟩
    · cases block with
      | true => cases served
      | false =>
        cases served
        exact ⟨.wait pid false .running, Call.follow_wait.mpr ⟨_, rfl, rfl⟩,
          .quiet (.refl sound) rfl⟩
  | kill target next =>
    cases served
    exact ⟨.kill target _, Call.follow_kill.mpr ⟨_, rfl, rfl⟩,
      .quiet (quiet_signalAll sound _ _) rfl⟩

end Kernel

end Host

end CueFront
