import CueFront.Host.Workspace
import CueFront.Proofs.Host.Isolation

/-!
# Executions side by side

Any number of runs of one front end, in any order of their steps, do not share their pipes.
A child that has executed its program has its own ends of its run's pipes in place of its
standard descriptors and no other end; so the end of what comes from a pipe depends on the child
of its run alone; and no run reads or writes what belongs to another (`executions_are_isolated`).
-/

namespace CueFront

namespace Host

open Run (State)

/-- A host that a front end can run tools on. -/
structure Kernel.Hosts (kernel : Kernel) (caller : Pid) : Prop where
  /-- Its tables fit together. -/
  sound : kernel.Sound
  /-- The front end is there. -/
  serves : kernel.Runs caller .serving
  /-- Its standard descriptors are open. -/
  standard : ∀ descriptor < 3, ∃ source closeOnExec,
    kernel.Holds caller descriptor source closeOnExec

/-- A front end that is alone on a host, with its standard descriptors open and no pipes. -/
theorem Kernel.hosts_alone {kernel : Kernel} {process : Process}
    (alone : kernel.processes = [process]) (serves : process.activity = .serving)
    (born : process.pid < kernel.nextPid) (keys : (process.slots.map (·.1)).Nodup)
    (files : (kernel.openFiles.map (·.1)).Nodup)
    (numbered : ∀ entry ∈ kernel.openFiles, entry.1 < kernel.nextNumber)
    (noPipes : ∀ entry ∈ kernel.openFiles, entry.2.source.pipe? = none)
    (named : ∀ entry ∈ kernel.openFiles, ∃ slot ∈ process.slots, slot.2.file = entry.1)
    (opened : ∀ slot ∈ process.slots, ∃ entry ∈ kernel.openFiles, entry.1 = slot.2.file)
    (standard : ∀ descriptor < 3, ∃ slot ∈ process.slots, slot.1 = descriptor) :
    kernel.Hosts process.pid := by
  have member : process ∈ kernel.processes := by simp [alone]
  have alive : process.isEnded = false := by simp [Process.isEnded, serves]
  have fits : process.Fits kernel := by
    refine ⟨born, keys, fun ended => absurd ended (by simp [alive]), fun slot slotted => ?_⟩
    obtain ⟨entry, there, number⟩ := opened slot slotted
    exact number ▸ numbered entry there
  refine ⟨⟨by simp [alone], by simpa [alone] using fits, files, numbered, ?_, ?_⟩,
    ⟨process, member, rfl, alive, serves⟩, ?_⟩
  · intro entry there pipe ends
    cases (noPipes entry there).symm.trans ends
  · exact fun entry there => .inr ⟨process, member, named entry there⟩
  · intro descriptor low
    obtain ⟨⟨_, slot⟩, slotted, rfl⟩ := standard descriptor low
    obtain ⟨⟨_, file⟩, there, rfl⟩ := opened _ slotted
    exact ⟨file.source, slot.closeOnExec, process, member, rfl, slot.file, slotted, file, there,
      rfl⟩

/-- A new workspace is a host to run tools on. -/
theorem Workspace.hosts_fresh : fresh.kernel.Hosts caller := by
  have alone : fresh.kernel.processes = [fresh.kernel.processes.head (by decide)] := rfl
  refine Kernel.hosts_alone alone rfl ?_ ?_ ?_ ?_ ?_ ?_ ?_ ?_ <;> decide

namespace Scene

variable {scene after : Scene} {kernel : Kernel} {caller : Pid} {jobs : List Run.Job}
  {turns : List Turn}

/-! ## However turns are taken -/

theorem fresh_of_getElem? {index : Nat} {state : State}
    (there : (jobs.map State.fresh)[index]? = some state) : ∃ job, state = .fresh job := by
  rw [List.getElem?_map] at there
  obtain ⟨job, -, rfl⟩ := Option.map_eq_some_iff.mp there
  exact ⟨job, rfl⟩

/-- Runs that have done nothing hold nothing. -/
theorem callerSide_fresh {holds : Holding}
    (standard : ∀ descriptor < 3, ∃ source closeOnExec, holds descriptor source closeOnExec) :
    CallerSide [] (jobs.map .fresh) holds where
  held index state there descriptor held := by
    obtain ⟨job, rfl⟩ := fresh_of_getElem? there
    cases held
  wired index state there redirect wired := by
    obtain ⟨job, rfl⟩ := fresh_of_getElem? there
    cases wired
  owned := nofun
  single index state there := by
    obtain ⟨job, rfl⟩ := fresh_of_getElem? there
    exact List.nodup_nil
  apart index other state state' there there' descriptor held := by
    obtain ⟨job, rfl⟩ := fresh_of_getElem? there
    cases held
  standard := standard

theorem Safe.start (hosts : kernel.Hosts caller) (jobs : List Run.Job) :
    (Scene.start kernel caller jobs).Safe := by
  obtain ⟨process, member, own, alive, serves⟩ := hosts.serves
  refine ⟨hosts.sound, nofun, nofun, ?_, own ▸ (hosts.sound.fits process member).born, ?_, ?_⟩
  · intro state member
    obtain ⟨job, -, rfl⟩ := List.mem_map.mp member
    trivial
  · rintro activity ⟨other, second, same, -, rfl⟩
    cases hosts.sound.unique second member (same.trans own.symm)
    exact ⟨serves, callerSide_fresh hosts.standard⟩
  · intro pid apart activity running descriptor source closeOnExec held one member
    cases member

theorem Safe.play (safe : scene.Safe) (played : scene.play turns = some after) : after.Safe := by
  induction turns generalizing scene with
  | nil =>
    cases played
    exact safe
  | cons turn turns ih =>
    obtain ⟨next, taken, played⟩ := Option.bind_eq_some_iff.mp played
    exact ih (safe.take taken) played

/-! ## What a scene keeps apart -/

/-- No child of a run is between fork and exec. -/
def Settled (scene : Scene) : Prop :=
  ∀ pid ≠ scene.caller, ∀ run, scene.standing pid = .preparing run →
    ∀ activity, ¬ scene.kernel.Runs pid activity

/-- The front end has closed what leads to a source. -/
def Closed (scene : Scene) (source : Source) : Prop :=
  ∀ descriptor closeOnExec, ¬ scene.kernel.Holds scene.caller descriptor source closeOnExec

/-- The child of a run, a descendant of it, or an intruder holds a source. -/
def HeldFor (scene : Scene) (run : Nat) (source : Source) : Prop :=
  ∃ pid ≠ scene.caller, ((scene.standing pid).serves run ∨ scene.standing pid = .intruding) ∧
    ∃ descriptor closeOnExec, scene.kernel.Holds pid descriptor source closeOnExec

/-- The runs of a scene do not share their pipes. -/
structure Isolated (scene : Scene) : Prop where
  /-- A child that has executed its program has its own ends in place of the standard
  descriptors, and no other end of a pipe of any run. -/
  started : ∀ pid ≠ scene.caller, ∀ run, scene.standing pid = .started run →
    ∀ activity, scene.kernel.Runs pid activity →
      (∀ descriptor source closeOnExec, scene.kernel.Holds pid descriptor source closeOnExec →
        ∀ one ∈ scene.made, source.pipe? = some one.number →
          one.run = run ∧ one.childEnd? = some (descriptor, source)) ∧
      ∀ target < 3, ∃ source, scene.kernel.Holds pid target source false ∧
        Fits scene.made run target source
  /-- As long as it works, it and its descendants have none but these ends. -/
  working : ∀ pid ≠ scene.caller, ∀ run, (scene.standing pid).serves run →
    ∀ descriptor source closeOnExec, scene.kernel.Holds pid descriptor source closeOnExec →
      ∀ one ∈ scene.made, source.pipe? = some one.number →
        one.run = run ∧ ∃ target, one.childEnd? = some (target, source)
  /-- Whether there is more to come from a pipe depends on the child of its run. -/
  writer : scene.Settled → ∀ one ∈ scene.made, scene.Closed (.pipeWriter one.number) →
    (scene.kernel.hasWriter one.number = true ↔ scene.HeldFor one.run (.pipeWriter one.number))
  /-- So does whether what goes into it is read. -/
  reader : scene.Settled → ∀ one ∈ scene.made, scene.Closed (.pipeReader one.number) →
    (scene.kernel.hasReader one.number = true ↔ scene.HeldFor one.run (.pipeReader one.number))
  /-- What a run reads or writes belongs to no other. -/
  own : ∀ (index : Nat) (state : State), scene.runs[index]? = some state → ∀ descriptor,
    (∃ count next, state.call? = some (.read descriptor count next)) ∨
        (∃ bytes next, state.call? = some (.write descriptor bytes next)) →
      ∀ source closeOnExec, scene.kernel.Holds scene.caller descriptor source closeOnExec →
        ∀ one ∈ scene.made, source.pipe? = some one.number → one.run = index

/-- Whoever holds an end of a pipe serves its run, has intruded, or is on its way to an exec. -/
theorem Safe.serves_of_holds (safe : scene.Safe) (settled : scene.Settled) {pid : Pid}
    (apart : pid ≠ scene.caller) {descriptor : Descriptor} {source : Source} {closeOnExec : Bool}
    (held : scene.kernel.Holds pid descriptor source closeOnExec) {one : Made}
    (member : one ∈ scene.made) (ends : source.pipe? = some one.number) :
    (scene.standing pid).serves one.run ∨ scene.standing pid = .intruding := by
  obtain ⟨activity, running⟩ := safe.sound.runs_of_holds held
  have allowed := safe.others pid apart activity running
  cases stands : scene.standing pid with
  | outside =>
    rw [stands] at allowed
    exact absurd ends (allowed _ _ _ held one member)
  | preparing run => exact absurd running (settled pid apart run stands activity)
  | started run =>
    rw [stands] at allowed
    exact .inl (allowed.1 _ _ _ held one member ends).1.symm
  | working run =>
    rw [stands] at allowed
    exact .inl (allowed _ _ _ held one member ends).1.symm
  | intruding => exact .inr rfl

theorem Safe.heldFor_iff (safe : scene.Safe) (settled : scene.Settled) {one : Made}
    (member : one ∈ scene.made) {source : Source} (ends : source.pipe? = some one.number)
    (closed : scene.Closed source) :
    scene.kernel.openFiles.any (·.2.source == source) = true ↔ scene.HeldFor one.run source := by
  rw [safe.sound.open_iff]
  constructor
  · rintro ⟨pid, descriptor, closeOnExec, held⟩
    have apart : pid ≠ scene.caller := by
      rintro rfl
      exact closed descriptor closeOnExec held
    exact ⟨pid, apart, safe.serves_of_holds settled apart held member ends, descriptor,
      closeOnExec, held⟩
  · rintro ⟨pid, -, -, held⟩
    exact ⟨pid, held⟩

theorem Safe.isolated (safe : scene.Safe) : scene.Isolated where
  started pid apart run stands activity running := by
    have allowed := safe.others pid apart activity running
    rw [stands] at allowed
    exact allowed
  working pid apart run serves descriptor source closeOnExec held := by
    obtain ⟨activity, running⟩ := safe.sound.runs_of_holds held
    have allowed := safe.others pid apart activity running
    intro one member ends
    generalize scene.standing pid = standing at serves allowed
    cases standing with
    | started other =>
      cases (serves : other = run)
      obtain ⟨own, place⟩ := allowed.1 _ _ _ held one member ends
      exact ⟨own, descriptor, place⟩
    | working other =>
      cases (serves : other = run)
      exact allowed _ _ _ held one member ends
    | _ => exact absurd serves id
  writer settled one member closed := safe.heldFor_iff settled member rfl closed
  reader settled one member closed := safe.heldFor_iff settled member rfl closed
  own index state here descriptor calls source closeOnExec held one member ends := by
    have ordered := safe.ordered state (List.mem_of_getElem? here)
    have uses : descriptor ∈ state.holds := by
      rcases calls with ⟨count, next, call⟩ | ⟨bytes, next, call⟩
      · exact Run.holds_of_read ordered call
      · exact Run.holds_of_write ordered call
    obtain ⟨activity, running⟩ := safe.sound.runs_of_holds held
    have side := (safe.caller activity running).2
    obtain ⟨-, other, there, held'⟩ := side.owned one member descriptor source closeOnExec held ends
    exact side.apart one.run index other state there here descriptor held' uses

/-- Executions side by side are isolated, whatever they and their programs do and in whatever
order. -/
theorem executions_are_isolated (hosts : kernel.Hosts caller)
    (played : (Scene.start kernel caller jobs).play turns = some scene) : scene.Isolated :=
  ((Safe.start hosts jobs).play played).isolated

/-- A host with one program, which exits at once. -/
def quietHost : Kernel where
  store :=
    { nodes := [(0, ⟨.directory [([120], 1)], 0o755⟩), (1, ⟨.program [120], 0o755⟩)], next := 2 }
  openFiles := [(0, ⟨.device .null, [], { reads := true, writes := true }, 0, false⟩)]
  processes :=
    [{ pid := 7, parent := 1, group := 7, session := 7, command := []
       slots := [(0, ⟨0, false⟩), (1, ⟨0, false⟩), (2, ⟨0, false⟩)]
       directory := [], mask := 0, activity := .serving }]
  nextPid := 8
  loader _ _ _ := some (.exit 0)

/-- The second run makes its pipes around the fork of the first, and both children execute. -/
def crossing : List Turn :=
  let first : Turn := .answer 0 (.fixed false) 0
  let second : Turn := .answer 1 (.fixed false) 0
  List.replicate 6 first ++ List.replicate 4 second ++ [first] ++ List.replicate 3 second ++
    List.replicate 6 (.advance 8) ++ List.replicate 6 (.advance 9)

theorem crossing_executions_are_isolated :
    let job (input : Option Bytes) : Run.Job := ⟨{ executable := [47, 120], input }, []⟩
    ∃ scene, (Scene.start quietHost 7 [job none, job (some [1])]).play crossing = some scene ∧
      scene.standing 8 = .started 0 ∧ scene.standing 9 = .started 1 ∧ scene.Isolated := by
  intro job
  have hosts : quietHost.Hosts 7 := by
    have alone : quietHost.processes = [quietHost.processes.head (by decide)] := rfl
    refine Kernel.hosts_alone alone rfl ?_ ?_ ?_ ?_ ?_ ?_ ?_ ?_ <;> decide
  have stands : ((Scene.start quietHost 7 [job none, job (some [1])]).play crossing).map
      (fun scene => (scene.standing 8, scene.standing 9)) = some (.started 0, .started 1) := by
    decide +kernel
  obtain ⟨scene, played, same⟩ := Option.map_eq_some_iff.mp stands
  obtain ⟨first, second⟩ := Prod.mk.inj same
  exact ⟨scene, played, first, second, executions_are_isolated hosts played⟩

end Scene

end Host

end CueFront
