import CueFront.Proofs.Host.Caller

/-!
# Runs do not share pipes

The invariant of scenes has two sides: the front end holds what its runs hold, and every other
process holds what its standing allows (`Scene.Safe`).  Every turn keeps it (`Scene.Safe.take`),
so it holds however runs and processes take turns (`Scene.Safe.play`).
-/

namespace CueFront

namespace Host

open Run (State)

/-! ## The invariant -/

/-- What holds of every scene. -/
structure Scene.Safe (scene : Scene) : Prop where
  /-- The tables of the host fit together. -/
  sound : scene.kernel.Sound
  /-- The numbers of the pipes were given out. -/
  numbered : ∀ one ∈ scene.made, one.number < scene.kernel.nextNumber
  /-- No two pipes have one number. -/
  once : Once scene.made
  /-- The runs are in order. -/
  ordered : ∀ state ∈ scene.runs, state.Ordered
  /-- The front end was there from the start. -/
  born : scene.caller < scene.kernel.nextPid
  /-- As long as the front end has not ended, it holds what its runs hold. -/
  caller : ∀ activity, scene.kernel.Runs scene.caller activity →
    activity = .serving ∧
      CallerSide scene.made scene.runs (scene.kernel.Holds scene.caller)
  /-- The others hold what their standing allows. -/
  others : ∀ pid ≠ scene.caller, ∀ activity, scene.kernel.Runs pid activity →
    (scene.standing pid).Allows scene.made (scene.kernel.Holds pid) activity

namespace Scene

variable {scene after : Scene} {kernel : Kernel} {activity : Activity}

/-- Nobody holds an end of a pipe that is still to be made. -/
theorem Safe.unheld (safe : scene.Safe) (pid : Pid) (run : Nat) (line : Line) :
    Unheld (scene.kernel.Holds pid) ⟨scene.kernel.nextNumber, run, line⟩ := by
  intro descriptor source kept held ends
  exact Nat.lt_irrefl _ (safe.sound.pipe_of_holds held ends)

theorem Safe.quiet (safe : scene.Safe) (quiet : scene.kernel.Quiet kernel) :
    { scene with kernel }.Safe := by
  refine ⟨quiet.sound, ?_, safe.once, safe.ordered, ?_, ?_, ?_⟩
  · intro one member
    exact quiet.numbers ▸ safe.numbered one member
  · exact quiet.pids ▸ safe.born
  · intro activity running
    obtain ⟨before, same⟩ := quiet.keeps scene.caller activity running
    obtain ⟨serves, side⟩ := safe.caller activity before
    exact ⟨serves, holding_ext same ▸ side⟩
  · intro pid apart activity running
    obtain ⟨before, same⟩ := quiet.keeps pid activity running
    exact holding_ext same ▸ safe.others pid apart activity before

theorem madeBy_eq {index : Nat} {state next : State} {call : Call State} {event : Event}
    (follows : call.follow event = some next) (noPipe : ∀ opened, event ≠ .pipe opened) :
    scene.madeBy index state call = scene.made := by
  cases call with
  | pipe later =>
    obtain ⟨opened, rfl, -⟩ := Call.follow_pipe.mp follows
    exact absurd rfl (noPipe opened)
  | _ => rfl

theorem standingBy_eq {index : Nat} {next : State} {call : Call State} {event : Event}
    (follows : call.follow event = some next) (noFork : ∀ plan child, event ≠ .fork plan child) :
    scene.standingBy index call = scene.standing := by
  cases call with
  | fork plan later =>
    obtain ⟨child, rfl, -⟩ := Call.follow_fork.mp follows
    exact absurd rfl (noFork plan child)
  | _ => rfl

section Answer

variable {index : Nat} {state next : State} {event : Event} {made : List Made}
  {standing : Pid → Standing}

/-- A run gets on while the front end holds what its runs hold. -/
theorem Safe.answered (safe : scene.Safe) (here : scene.runs[index]? = some state)
    (step : state.next? event = some next) (sound : kernel.Sound)
    (numbered : ∀ one ∈ made, one.number < kernel.nextNumber) (once : Once made)
    (pids : scene.kernel.nextPid ≤ kernel.nextPid)
    (caller : ∀ activity, kernel.Runs scene.caller activity →
      scene.kernel.Runs scene.caller activity ∧
        Affects scene.made made (scene.kernel.Holds scene.caller) (kernel.Holds scene.caller) index
          event state.line?)
    (others : ∀ pid ≠ scene.caller, ∀ activity, kernel.Runs pid activity →
      (standing pid).Allows made (kernel.Holds pid) activity) :
    Scene.Safe { scene with kernel, runs := scene.runs.set index next, made, standing } := by
  have ordered := safe.ordered state (List.mem_of_getElem? here)
  refine ⟨sound, numbered, once, ?_, Nat.lt_of_lt_of_le safe.born pids, ?_, others⟩
  · intro state' member
    rcases List.mem_or_eq_of_mem_set member with old | rfl
    · exact safe.ordered state' old
    · exact (Run.next?_stage ordered step).1
  · intro activity running
    obtain ⟨before, affects⟩ := caller activity running
    obtain ⟨serves, side⟩ := safe.caller activity before
    exact ⟨serves, side.step here ordered step affects⟩

theorem Safe.answered_quiet (safe : scene.Safe) (here : scene.runs[index]? = some state)
    (step : state.next? event = some next) (quiet : scene.kernel.Quiet kernel)
    (opened : event.opened = []) (closed : event.closed = []) :
    Scene.Safe { scene with kernel, runs := scene.runs.set index next } := by
  have later := safe.quiet quiet
  refine safe.answered here step later.sound later.numbered later.once
    (Nat.le_of_eq quiet.pids.symm) ?_ later.others
  intro activity running
  obtain ⟨before, same⟩ := quiet.keeps scene.caller activity running
  exact ⟨before, holding_ext same ▸ affects_still opened closed⟩

/-- What the front end opens or closes does not matter to what others may hold. -/
theorem Safe.others_changes (safe : scene.Safe) {holds : Holding}
    (changes : scene.kernel.Changes kernel scene.caller holds) {pid : Pid}
    (apart : pid ≠ scene.caller) {activity : Activity} (running : kernel.Runs pid activity) :
    (scene.standing pid).Allows scene.made (kernel.Holds pid) activity := by
  obtain ⟨before, same⟩ := changes.keeps pid apart activity running
  exact holding_ext same ▸ safe.others pid apart activity before

/-- The front end's call changes what it holds. -/
theorem Safe.answered_changes (safe : scene.Safe) (here : scene.runs[index]? = some state)
    (step : state.next? event = some next) (sound : kernel.Sound) {holds : Holding}
    (changes : scene.kernel.Changes kernel scene.caller holds)
    (affects : Affects scene.made scene.made (scene.kernel.Holds scene.caller)
      (kernel.Holds scene.caller) index event state.line?) :
    Scene.Safe { scene with kernel, runs := scene.runs.set index next } := by
  refine safe.answered here step sound ?_ safe.once (Nat.le_of_eq changes.pids.symm) ?_ ?_
  · exact fun one member => Nat.lt_of_lt_of_le (safe.numbered one member) changes.numbers
  · exact fun activity running => ⟨(changes.runs activity).mp running, affects⟩
  · exact fun pid apart activity running => safe.others_changes changes apart running

/-- A run makes a pipe.  Its number is new, so nobody else holds an end of it. -/
theorem Safe.answered_pipe (safe : scene.Safe) (here : scene.runs[index]? = some state)
    {reading writing : Descriptor} {line : Line} (which : state.line? = some line)
    (step : state.next? (.pipe (.ok (reading, writing))) = some next)
    (opens : scene.kernel.OpensPipe kernel scene.caller reading writing true) :
    Scene.Safe { scene with
      kernel
      runs := scene.runs.set index next
      made := ⟨scene.kernel.nextNumber, index, line⟩ :: scene.made } := by
  have unmade : ∀ one ∈ scene.made, one.number ≠ scene.kernel.nextNumber :=
    fun one member => Nat.ne_of_lt (safe.numbered one member)
  refine safe.answered here step opens.sound ?_ ?_ (Nat.le_of_eq opens.changes.pids.symm) ?_ ?_
  · rintro one (_ | ⟨_, member⟩)
    · exact opens.numbers
    · exact Nat.lt_trans (safe.numbered one member) opens.numbers
  · rintro one (_ | ⟨_, first⟩) other (_ | ⟨_, second⟩) same
    · rfl
    · exact absurd same.symm (unmade other second)
    · exact absurd same (unmade one first)
    · exact safe.once one first other second same
  · intro activity running
    refine ⟨(opens.changes.runs activity).mp running, ?_⟩
    rw [which]
    exact affects_pipe opens.apart opens.freeReading opens.freeWriting (safe.unheld _ _ _) unmade
      opens.changes.holds
  · intro pid apart activity running
    obtain ⟨before, same⟩ := opens.changes.keeps pid apart activity running
    rw [holding_ext same]
    exact (safe.others pid apart activity before).grow (safe.unheld _ _ _)

/-- A run makes its child, which has all that it will put in place. -/
theorem Safe.answered_fork (safe : scene.Safe) (here : scene.runs[index]? = some state)
    {plan : ChildPlan} {later : Except Errno Pid → State}
    (call : state.call? = some (.fork plan later))
    (step : state.next? (.fork plan (.ok scene.kernel.nextPid)) = some next)
    (running : scene.kernel.Runs scene.caller activity)
    (spawns : scene.kernel.Spawns kernel scene.caller (childCode plan)) :
    Scene.Safe { scene with
      kernel
      runs := scene.runs.set index next
      standing := fun pid =>
        if pid = scene.kernel.nextPid then .preparing index else scene.standing pid } := by
  refine safe.answered here step spawns.sound ?_ safe.once (spawns.pids ▸ Nat.le_succ _) ?_ ?_
  · exact fun one member => spawns.numbers ▸ safe.numbered one member
  · intro activity running
    obtain ⟨before, same⟩ := spawns.keeps scene.caller (Nat.ne_of_lt safe.born) activity running
    exact ⟨before, holding_ext same ▸ affects_still rfl rfl⟩
  · intro pid apart activity runs
    by_cases child : pid = scene.kernel.nextPid
    · subst child
      have side := (safe.caller _ running).2
      rw [spawns.starts activity runs, holding_ext spawns.holds, if_pos rfl]
      exact Prepares.forked plan (side.redirecting here (State.wired_of_fork call))
    · obtain ⟨before, same⟩ := spawns.keeps pid child activity runs
      rw [holding_ext same, if_neg child]
      exact safe.others pid apart activity before

end Answer

/-! ## Every turn -/

/-- An event that only tells something opens and closes nothing. -/
theorem still_of_plain {event : Event} (plain : Kernel.isPlain event = true) :
    event.opened = [] ∧ event.closed = [] := by
  cases event with
  | act action => cases action <;> first | exact ⟨rfl, rfl⟩ | cases plain
  | openNull opened | pipe opened | fork plan child => cases plain
  | _ => exact ⟨rfl, rfl⟩

theorem pipe_of_follow {σ : Type} {call : Call σ} {next : σ}
    {opened : Except Errno (Descriptor × Descriptor)}
    (follows : call.follow (.pipe opened) = some next) : ∃ later, call = .pipe later := by
  cases call with
  | pipe later => exact ⟨later, rfl⟩
  | _ => cases follows

theorem fork_of_follow {σ : Type} {call : Call σ} {next : σ} {plan : ChildPlan}
    {child : Except Errno Pid} (follows : call.follow (.fork plan child) = some next) :
    ∃ later, call = .fork plan later := by
  cases call with
  | fork other later =>
    obtain ⟨_, same, -⟩ := Call.follow_fork.mp follows
    cases same
    exact ⟨later, rfl⟩
  | _ => cases follows

/-- A call of a run is answered. -/
theorem Safe.answer (safe : scene.Safe) {process : Process} {index : Nat} {state next : State}
    {call : Call State} {token : TokenRule} {pollEnd : Nat}
    (member : process ∈ scene.kernel.processes) (own : process.pid = scene.caller)
    (alive : process.isEnded = false) (here : scene.runs[index]? = some state)
    (calls : state.call? = some call)
    (served : Machine.serve scene.kernel process token pollEnd call = (some next, kernel)) :
    Scene.Safe { scene with
      kernel
      runs := scene.runs.set index next
      made := scene.madeBy index state call
      standing := scene.standingBy index call } := by
  obtain ⟨event, follows, effect⟩ := Kernel.effect_serve safe.sound member alive served
  have step : state.next? event = some next := by rw [State.next?, calls, Option.bind_some, follows]
  rw [own] at effect
  cases effect with
  | quiet quiet plain =>
    obtain ⟨opened, closed⟩ := still_of_plain plain
    rw [madeBy_eq follows (by rintro _ rfl; cases plain),
      standingBy_eq follows (by rintro _ _ rfl; cases plain)]
    exact safe.answered_quiet here step quiet opened closed
  | closes descriptor sound changes =>
    rw [madeBy_eq follows (by rintro _ ⟨⟩), standingBy_eq follows (by rintro _ _ ⟨⟩)]
    exact safe.answered_changes here step sound changes (affects_close changes.holds)
  | opensNull descriptor opens =>
    rw [madeBy_eq follows (by rintro _ ⟨⟩), standingBy_eq follows (by rintro _ _ ⟨⟩)]
    exact safe.answered_changes here step opens.sound opens.changes
      (affects_openNull opens.free opens.changes.holds)
  | opensPipe reading writing opens =>
    obtain ⟨later, rfl⟩ := pipe_of_follow follows
    obtain ⟨line, which⟩ := State.line?_of_pipe calls
    rw [standingBy_eq follows (by rintro _ _ ⟨⟩)]
    simp only [madeBy, which]
    exact safe.answered_pipe here which step opens
  | forks plan spawns =>
    obtain ⟨later, rfl⟩ := fork_of_follow follows
    rw [madeBy_eq follows (by rintro _ ⟨⟩)]
    exact safe.answered_fork here calls step ⟨process, member, own, alive, rfl⟩ spawns

/-- A call of a run fails. -/
theorem Safe.refuse (safe : scene.Safe) {index : Nat} {state next : State} {call : Call State}
    {errno : Errno} {event : Event} (here : scene.runs[index]? = some state)
    (calls : state.call? = some call) (refused : refused? errno call = some (event, next)) :
    Scene.Safe { scene with runs := scene.runs.set index next } := by
  have fails : call.follow event = some next ∧ event.opened = [] ∧ event.closed = [] := by
    cases call <;> cases refused <;> simp [Call.follow, Event.opened, Event.closed]
  obtain ⟨follows, opened, closed⟩ := fails
  have step : state.next? event = some next := by rw [State.next?, calls, Option.bind_some, follows]
  exact safe.answered_quiet here step (.refl safe.sound) opened closed

theorem standingAfter_other {process : Process} {pid : Pid} (apart : pid ≠ process.pid)
    (old : pid < scene.kernel.nextPid) : scene.standingAfter process pid = scene.standing pid :=
  if_neg fun own => own.elim apart (Nat.not_le.mpr old)

/-- What a lawful process or its child holds of the pipes of the runs, the process held. -/
theorem Safe.held_before (safe : scene.Safe) {actor pid : Pid} {lawful : Prop}
    (spreads : scene.kernel.Spreads kernel actor lawful) (law : lawful)
    (own : pid = actor ∨ scene.kernel.nextPid ≤ pid) {descriptor : Descriptor} {source : Source}
    {closeOnExec : Bool} (held : kernel.Holds pid descriptor source closeOnExec) {one : Made}
    (member : one ∈ scene.made) (ends : source.pipe? = some one.number) :
    ∃ descriptor closeOnExec, scene.kernel.Holds actor descriptor source closeOnExec := by
  refine (spreads.origin law pid own _ _ _ held).resolve_right fun new => ?_
  exact Nat.not_le.mpr (safe.numbered one member) (new _ ends)

/-- A process takes a step, and what it and its child hold afterwards is allowed. -/
theorem Safe.allows_advance (safe : scene.Safe) {process : Process}
    (member : process ∈ scene.kernel.processes) (apart : process.pid ≠ scene.caller)
    (alive : process.isEnded = false) {pid : Pid}
    (own : pid = process.pid ∨ scene.kernel.nextPid ≤ pid)
    (running : (scene.kernel.advance process).2.Runs pid activity) :
    (scene.standingAfter process pid).Allows scene.made
      ((scene.kernel.advance process).2.Holds pid) activity := by
  have spreads := Kernel.spreads_advance safe.sound member
  have before := safe.others process.pid apart _ ⟨process, member, rfl, alive, rfl⟩
  rw [standingAfter, if_pos own]
  split
  · trivial
  next lawful =>
  have law := Bool.eq_false_iff.mpr lawful
  generalize scene.standing process.pid = standing at before
  cases standing with
  | outside =>
    intro descriptor source kept held one second ends
    obtain ⟨descriptor, kept, held⟩ := safe.held_before spreads law own held second ends
    exact before _ _ _ held one second ends
  | preparing run =>
    obtain ⟨pids, allowed⟩ := Kernel.advance_preparing safe.sound safe.once member before
    rcases own with rfl | new
    · exact allowed activity running
    · obtain ⟨child, there, rfl, -⟩ := running
      have born := (spreads.sound.fits child there).born
      rw [pids] at born
      exact absurd new (Nat.not_le.mpr born)
  | started run =>
    intro descriptor source kept held one second ends
    obtain ⟨descriptor, kept, held⟩ := safe.held_before spreads law own held second ends
    obtain ⟨same, place⟩ := before.1 _ _ _ held one second ends
    exact ⟨same, _, place⟩
  | working run =>
    intro descriptor source kept held one second ends
    obtain ⟨descriptor, kept, held⟩ := safe.held_before spreads law own held second ends
    exact before _ _ _ held one second ends
  | intruding => trivial

/-- A process that has ended takes no step, and the front end none of its own. -/
theorem Safe.advance_still (safe : scene.Safe) {process : Process}
    (member : process ∈ scene.kernel.processes)
    (still : process.isEnded = true ∨ process.pid = scene.caller) :
    (scene.kernel.advance process).2 = scene.kernel := by
  cases here : process.activity with
  | running code =>
    have alive := Kernel.isEnded_of_running here
    rcases still with ended | own
    · cases alive.symm.trans ended
    · have serves := (safe.caller _ ⟨process, member, own, alive, rfl⟩).1
      cases here.symm.trans serves
  | serving | ended status => simp only [Kernel.advance, here]

/-- A process takes a step. -/
theorem Safe.advance (safe : scene.Safe) {process : Process}
    (member : process ∈ scene.kernel.processes) :
    Scene.Safe { scene with
      kernel := (scene.kernel.advance process).2, standing := scene.standingAfter process } := by
  have spreads := Kernel.spreads_advance safe.sound member
  refine ⟨spreads.sound, ?_, safe.once, safe.ordered, Nat.lt_of_lt_of_le safe.born spreads.pids,
    ?_, ?_⟩
  · exact fun one second => Nat.lt_of_lt_of_le (safe.numbered one second) spreads.numbers
  · intro activity running
    dsimp only at running ⊢
    by_cases own : process.pid = scene.caller
    · rw [safe.advance_still member (.inr own)] at running ⊢
      exact safe.caller activity running
    · obtain ⟨before, same⟩ := spreads.keeps _ (Ne.symm own) safe.born activity running
      obtain ⟨serves, side⟩ := safe.caller activity before
      exact ⟨serves, holding_ext same ▸ side⟩
  · intro pid apart activity running
    dsimp only at apart running ⊢
    by_cases other : pid ≠ process.pid ∧ pid < scene.kernel.nextPid
    · obtain ⟨before, same⟩ := spreads.keeps pid other.1 other.2 activity running
      rw [standingAfter_other other.1 other.2, holding_ext same]
      exact safe.others pid apart activity before
    have own : pid = process.pid ∨ scene.kernel.nextPid ≤ pid := by
      rcases Nat.lt_or_ge pid scene.kernel.nextPid with old | new
      · exact .inl (Classical.not_not.mp fun apart => other ⟨apart, old⟩)
      · exact .inr new
    by_cases still : process.isEnded = true ∨ process.pid = scene.caller
    · -- Nobody is new then, and this is neither a process that has ended nor the front end.
      rw [safe.advance_still member still] at running
      obtain ⟨there, second, rfl, alive, rfl⟩ := running
      have same := own.resolve_right (Nat.not_le.mpr (safe.sound.fits there second).born)
      cases safe.sound.unique second member same
      rcases still with ended | caller
      · cases alive.symm.trans ended
      · exact absurd caller apart
    · obtain ⟨alive, notCaller⟩ := not_or.mp still
      exact safe.allows_advance member notCaller (Bool.eq_false_iff.mpr alive) own running

/-- Every turn keeps what holds of every scene. -/
theorem Safe.take (safe : scene.Safe) {turn : Turn} (taken : scene.take? turn = some after) :
    after.Safe := by
  cases turn with
  | answer index token pollEnd =>
    simp only [take?, Option.bind_eq_bind, Option.bind_eq_some_iff] at taken
    obtain ⟨process, found, state, here, call, calls, taken⟩ := taken
    split at taken
    · cases taken
    next running =>
    split at taken
    · next next kernel served =>
      cases taken
      obtain ⟨member, own⟩ := Kernel.mem_of_process? found
      exact safe.answer member own (Bool.eq_false_iff.mpr running) here calls served
    · cases taken
  | refuse index errno =>
    simp only [take?, Option.bind_eq_bind, Option.bind_eq_some_iff] at taken
    obtain ⟨state, here, call, calls, ⟨event, next⟩, refused, taken⟩ := taken
    cases taken
    exact safe.refuse here calls refused
  | advance pid =>
    simp only [take?, Option.bind_eq_bind, Option.bind_eq_some_iff] at taken
    obtain ⟨process, found, taken⟩ := taken
    cases taken
    exact safe.advance (Kernel.mem_of_process? found).1
  | clock now =>
    cases taken
    exact safe.quiet (safe.sound.quiet_of_same rfl rfl rfl rfl)

end Scene

end Host

end CueFront
