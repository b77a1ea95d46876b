import CueFront.Proofs.Host.Executions

/-!
# The schedule takes turns

`Machine.run` lets runs and processes act in an order of its own.  Each of its steps is some turns
of a scene, so what holds however turns are taken holds of it (`run_takes_turns`), as long as the
front end has not ended: a scene stops there.
-/

namespace CueFront

namespace Host

open Run (State)

/-! ## Calls that wait -/

namespace Kernel

variable {kernel after : Kernel} {number : Nat} {file : OpenFile}

theorem readFile_wait {count : Nat} (waits : kernel.readFile number file count = (.wait, after)) :
    after = kernel := by
  simp only [readFile] at waits
  repeat' split at waits
  all_goals cases waits
  rfl

theorem writeFile_wait {bytes : Bytes}
    (waits : kernel.writeFile number file bytes = (.wait, after)) : after = kernel := by
  simp only [writeFile] at waits
  repeat' split at waits
  all_goals cases waits
  rfl

end Kernel

/-- A call that waits leaves the host as it is. -/
theorem Machine.serve_wait {σ : Type} {kernel after : Kernel} {process : Process}
    {token : TokenRule} {pollEnd : Nat} {call : Call σ}
    (waits : Machine.serve kernel process token pollEnd call = (none, after)) : after = kernel := by
  cases call with
  | act action next =>
    cases action with
    | poll reading writing milliseconds =>
      simp only [Machine.serve, Machine.act, Prod.mk.injEq] at waits
      exact waits.2.symm
    | setNonblocking descriptor =>
      cases found : kernel.fileOf? process descriptor <;>
        simp [Machine.serve, Machine.act, found] at waits
    | _ => cases waits
  | read descriptor count next =>
    simp only [Machine.serve] at waits
    split at waits
    · cases waits
    · split at waits
      · cases waits
      · next waiting =>
        cases waits
        exact Kernel.readFile_wait waiting
  | write descriptor bytes next =>
    simp only [Machine.serve] at waits
    split at waits
    · cases waits
    · split at waits
      · cases waits
      · next waiting =>
        cases waits
        exact Kernel.writeFile_wait waiting
  | wait pid block next =>
    simp only [Machine.serve] at waits
    split at waits
    · cases waits
    · cases waits
    · cases block <;> cases waits
      rfl
  | _ => cases waits

namespace Scene

variable {scene between after : Scene} {kernel : Kernel} {turn : Turn}

/-! ## From scene to scene -/

/-- Turns lead from a scene to another. -/
def Reaches (scene after : Scene) : Prop := ∃ turns, scene.play turns = some after

theorem Reaches.refl (scene : Scene) : scene.Reaches scene := ⟨[], rfl⟩

theorem Reaches.trans (first : scene.Reaches between) (second : between.Reaches after) :
    scene.Reaches after := by
  obtain ⟨turns, played⟩ := first
  obtain ⟨more, later⟩ := second
  refine ⟨turns ++ more, ?_⟩
  rw [play, List.foldlM_append, ← play, played]
  exact later

theorem reaches_of_take (taken : scene.take? turn = some after) : scene.Reaches after :=
  ⟨[turn], by rw [play, List.foldlM_cons, taken]; rfl⟩

theorem caller_of_take (taken : scene.take? turn = some after) : after.caller = scene.caller := by
  cases turn with
  | answer index token pollEnd =>
    simp only [take?, Option.bind_eq_bind, Option.bind_eq_some_iff] at taken
    obtain ⟨process, -, state, -, call, -, taken⟩ := taken
    repeat' split at taken
    all_goals cases taken
    rfl
  | refuse index errno =>
    simp only [take?, Option.bind_eq_bind, Option.bind_eq_some_iff] at taken
    obtain ⟨state, -, call, -, answer, -, taken⟩ := taken
    cases taken
    rfl
  | advance pid =>
    simp only [take?, Option.bind_eq_bind, Option.bind_eq_some_iff] at taken
    obtain ⟨process, -, taken⟩ := taken
    cases taken
    rfl
  | clock now =>
    cases taken
    rfl

/-- A scene has got as far as the host with its runs, or the front end has ended. -/
def Shows (scene : Scene) (kernel : Kernel) (states : List State) : Prop :=
  (∃ activity, scene.kernel.Runs scene.caller activity) →
    scene.kernel = kernel ∧ scene.runs = states

/-- Some scene that can be reached shows the host with its runs. -/
def Leads (scene : Scene) (kernel : Kernel) (states : List State) : Prop :=
  ∃ after, scene.Reaches after ∧ after.Safe ∧ after.caller = scene.caller ∧
    after.Shows kernel states

theorem Safe.leads (safe : scene.Safe) {states : List State} (shows : scene.Shows kernel states) :
    scene.Leads kernel states :=
  ⟨scene, .refl scene, safe, rfl, shows⟩

theorem Safe.leads_take (safe : scene.Safe) (taken : scene.take? turn = some after) :
    scene.Leads after.kernel after.runs :=
  ⟨after, reaches_of_take taken, safe.take taken, caller_of_take taken, fun _ => ⟨rfl, rfl⟩⟩

/-! ## What the schedule does -/

theorem Safe.process?_caller (safe : scene.Safe) {activity : Activity}
    (running : scene.kernel.Runs scene.caller activity) {process : Process}
    (found : scene.kernel.process? scene.caller = some process) : process.isEnded = false := by
  obtain ⟨other, member, own, alive, -⟩ := running
  obtain ⟨second, same⟩ := Kernel.mem_of_process? found
  rwa [safe.sound.unique second member (same.trans own.symm)]

/-- A run gets its next call answered, or waits. -/
theorem Safe.leads_advanceThread (safe : scene.Safe) {activity : Activity}
    (running : scene.kernel.Runs scene.caller activity) {index : Nat} {thread : Thread}
    (here : scene.runs[index]? = some thread.state) :
    scene.Leads (Machine.advanceThread scene.kernel scene.caller thread).2.1
      (scene.runs.set index
        (Machine.advanceThread scene.kernel scene.caller thread).2.2.state) := by
  have waits : scene.Leads scene.kernel (scene.runs.set index thread.state) := by
    refine safe.leads fun _ => ⟨rfl, ?_⟩
    obtain ⟨inside, same⟩ := List.getElem?_eq_some_iff.mp here
    rw [← same, List.set_getElem_self]
  simp only [Machine.advanceThread]
  split
  · exact waits
  split
  · next call process calls found =>
    obtain ⟨found, -⟩ := Option.filter_eq_some_iff.mp found
    have alive := safe.process?_caller running found
    split
    · next state kernel served =>
      have taken : scene.take? (.answer index thread.token
          (Machine.pollEndOf scene.kernel thread call)) = some { scene with
            kernel
            runs := scene.runs.set index state
            made := scene.madeBy index thread.state call
            standing := scene.standingBy index call } := by
        simp only [take?, found, here, calls, Option.bind_eq_bind, Option.bind_some, alive,
          Bool.false_eq_true, if_false, served]
      exact safe.leads_take taken
    · next kernel served =>
      rw [Machine.serve_wait served]
      exact waits
  · exact waits

/-- A process takes a step, or none. -/
theorem Safe.leads_advanceReady (safe : scene.Safe) (pid : Pid) :
    scene.Leads (scene.kernel.advanceReady pid).2 scene.runs := by
  have waits : scene.Leads scene.kernel scene.runs := safe.leads fun _ => ⟨rfl, rfl⟩
  simp only [Kernel.advanceReady]
  split
  · next process found =>
    split
    · exact waits
    · have taken : scene.take? (.advance pid) = some { scene with
          kernel := (scene.kernel.advance process).2
          standing := scene.standingAfter process } := by
        simp only [take?, found, Option.bind_eq_bind, Option.bind_some]
      exact safe.leads_take taken
  · exact waits

/-- What can be reached from a scene on the way leads on, unless the front end has ended. -/
theorem Leads.and_then {states later : List State} {kernel' : Kernel}
    (leads : scene.Leads kernel states)
    (next : ∀ after : Scene, after.Safe → after.caller = scene.caller →
      ∀ activity, after.kernel.Runs after.caller activity → after.kernel = kernel →
        after.runs = states → after.Leads kernel' later) :
    scene.Leads kernel' later := by
  obtain ⟨after, reaches, safe, own, shows⟩ := leads
  by_cases running : ∃ activity, after.kernel.Runs after.caller activity
  · obtain ⟨same, runs⟩ := shows running
    obtain ⟨activity, running⟩ := running
    obtain ⟨last, reaches', safe', own', shows'⟩ := next after safe own activity running same runs
    exact ⟨last, reaches.trans reaches', safe', own'.trans own, shows'⟩
  · exact ⟨after, reaches, safe, own, fun there => absurd there running⟩

/-- Letting all runs act leads from scene to scene, one turn after the other. -/
theorem Safe.leads_advanceThreads (threads : List Thread) :
    ∀ {scene : Scene} (before : List State), scene.Safe →
      scene.runs = before ++ threads.map (·.state) →
      ∀ activity, scene.kernel.Runs scene.caller activity →
        scene.Leads (Machine.advanceThreads scene.kernel scene.caller threads).2.1
          (before ++
            (Machine.advanceThreads scene.kernel scene.caller threads).2.2.map (·.state)) := by
  induction threads with
  | nil =>
    intro scene before safe runs _ _
    exact safe.leads fun _ => ⟨rfl, runs⟩
  | cons thread threads ih =>
    intro scene before safe runs activity running
    have here : scene.runs[before.length]? = some thread.state := by simp [runs]
    refine (safe.leads_advanceThread running here).and_then ?_
    intro after safe own activity running same runs'
    have later : after.runs =
        (before ++ [(Machine.advanceThread scene.kernel scene.caller thread).2.2.state]) ++
          threads.map (·.state) := by
      rw [runs', runs]
      simp
    have leads := ih _ safe later activity running
    rw [own, same] at leads
    simpa [Machine.advanceThreads] using leads

/-- Letting all processes act leads from scene to scene, one turn after the other. -/
theorem Safe.leads_advanceProcesses (pids : List Pid) :
    ∀ {scene : Scene}, scene.Safe →
      scene.Leads (Machine.advanceProcesses scene.kernel pids).2 scene.runs := by
  induction pids with
  | nil =>
    intro scene safe
    exact safe.leads fun _ => ⟨rfl, rfl⟩
  | cons pid pids ih =>
    intro scene safe
    refine (safe.leads_advanceReady pid).and_then ?_
    intro after safe _ _ _ same runs
    have leads := ih safe
    rw [same, runs] at leads
    exact leads

/-- One step of the schedule. -/
theorem Safe.leads_step? (safe : scene.Safe) {threads : List Thread} {machine : Machine}
    (runs : scene.runs = threads.map (·.state)) {activity : Activity}
    (running : scene.kernel.Runs scene.caller activity)
    (stepped : Machine.step? ⟨scene.kernel, scene.caller, threads⟩ = some machine) :
    machine.caller = scene.caller ∧
      scene.Leads machine.kernel (machine.threads.map (·.state)) := by
  have acts : scene.Leads
      (Machine.advanceProcesses (Machine.advanceThreads scene.kernel scene.caller threads).2.1
        ((Machine.advanceThreads scene.kernel scene.caller threads).2.1.processes.map (·.pid))).2
      ((Machine.advanceThreads scene.kernel scene.caller threads).2.2.map (·.state)) := by
    refine (safe.leads_advanceThreads threads [] runs activity running).and_then ?_
    intro after safe _ _ _ same runs'
    have leads := safe.leads_advanceProcesses (after.kernel.processes.map (·.pid))
    rw [same, runs', List.nil_append] at leads
    exact leads
  simp only [Machine.step?] at stepped
  split at stepped
  · cases stepped
    exact ⟨rfl, acts⟩
  · obtain ⟨now, -, rfl⟩ := Option.map_eq_some_iff.mp stepped
    refine ⟨rfl, acts.and_then ?_⟩
    intro after safe _ _ _ same runs'
    have leads := safe.leads_take (show after.take? (.clock now) = some _ from rfl)
    rw [same, runs'] at leads
    exact leads

/-- All that the schedule does is turns of a scene. -/
theorem Safe.leads_run (steps : Nat) :
    ∀ {scene : Scene} {threads : List Thread}, scene.Safe → scene.runs = threads.map (·.state) →
      ∀ activity, scene.kernel.Runs scene.caller activity →
        scene.Leads (Machine.run steps ⟨scene.kernel, scene.caller, threads⟩).kernel
          ((Machine.run steps ⟨scene.kernel, scene.caller, threads⟩).threads.map (·.state)) := by
  induction steps with
  | zero =>
    intro scene threads safe runs _ _
    exact safe.leads fun _ => ⟨rfl, runs⟩
  | succ steps ih =>
    intro scene threads safe runs activity running
    simp only [Machine.run]
    split
    · exact safe.leads fun _ => ⟨rfl, runs⟩
    split
    · next machine stepped =>
      obtain ⟨own, leads⟩ := safe.leads_step? runs running stepped
      refine leads.and_then ?_
      intro after safe own' activity running same runs'
      have leads := ih safe runs' activity running
      obtain ⟨kernel, caller, threads⟩ := machine
      cases own
      rw [same, own'] at leads
      exact leads
    · exact safe.leads fun _ => ⟨rfl, runs⟩

/-- The runs of a front end take turns: as long as the front end has not ended, the host and the
runs are those of a scene that can be reached, and so they are isolated. -/
theorem run_takes_turns {caller : Pid} (hosts : kernel.Hosts caller)
    (jobs : List (Run.Job × TokenRule)) (steps : Nat) :
    let threads := jobs.map fun (job, token) => { state := .fresh job, token : Thread }
    let machine := Machine.run steps ⟨kernel, caller, threads⟩
    ∃ turns scene, (Scene.start kernel caller (jobs.map (·.1))).play turns = some scene ∧
      scene.Shows machine.kernel (machine.threads.map (·.state)) := by
  intro threads machine
  have runs : (Scene.start kernel caller (jobs.map (·.1))).runs = threads.map (·.state) := by
    simp [Scene.start, threads]
  obtain ⟨after, ⟨turns, played⟩, -, -, shows⟩ :=
    Safe.leads_run steps (Safe.start hosts _) runs _ hosts.serves
  exact ⟨turns, after, played, shows⟩

end Scene

end Host

end CueFront
