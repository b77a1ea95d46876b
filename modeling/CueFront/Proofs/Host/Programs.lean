import CueFront.Proofs.Host.Effects

/-!
# What any program can do to descriptors

A program can make any call.  Whatever it does, the others keep what they have, and it gets at
what only they hold in one way: the process table has paths that lead there (`Kernel.intrudes`).
A process that keeps away from those holds afterwards what it held before, what leads to no pipe,
and pipes that are new; so do its children (`spreads_advance`).
-/

namespace CueFront

namespace Host

namespace Kernel

variable {kernel after : Kernel} {process other : Process} {pid : Pid} {number : Nat}
  {descriptor : Descriptor} {source : Source} {closeOnExec : Bool} {activity : Activity}
  {lawful : Prop}

/-- A process is about to open, by a path of the process table, what only others hold. -/
def intrudes (kernel : Kernel) (process : Process) : Bool :=
  match process.activity with
  | .running (.call (.openFile path _) _) =>
    match kernel.tableEntry? process path with
    | some (.descriptor file) =>
      !process.slots.any fun slot => (kernel.openFile? slot.2.file).any (·.source == file.source)
    | _ => false
  | _ => false

/-- A step of a process adds nothing to what others hold; if it is lawful, the process and its
children hold what it held, or what is new or no pipe. -/
structure Spreads (before after : Kernel) (actor : Pid) (lawful : Prop) : Prop where
  /-- The tables still fit together. -/
  sound : after.Sound
  /-- Numbers are not given out twice. -/
  numbers : before.nextNumber ≤ after.nextNumber
  /-- Nor are those of processes. -/
  pids : before.nextPid ≤ after.nextPid
  /-- The others keep what they have. -/
  keeps : ∀ pid ≠ actor, pid < before.nextPid → before.Keeps after pid
  /-- Where the rest comes from. -/
  origin : lawful → ∀ pid, pid = actor ∨ before.nextPid ≤ pid →
    ∀ descriptor source closeOnExec, after.Holds pid descriptor source closeOnExec →
      (∃ descriptor closeOnExec, before.Holds actor descriptor source closeOnExec) ∨
        ∀ pipe, source.pipe? = some pipe → before.nextNumber ≤ pipe

/-- What spreads over two steps spreads from the first actor.  A child of the first step is left
alone by the second. -/
theorem Spreads.trans {before : Kernel} {actor : Pid}
    (first : before.Spreads kernel actor lawful) (second : kernel.Spreads after actor lawful) :
    before.Spreads after actor lawful := by
  refine ⟨second.sound, Nat.le_trans first.numbers second.numbers,
    Nat.le_trans first.pids second.pids, ?_, ?_⟩
  · intro pid apart old
    exact (first.keeps pid apart old).trans
      (second.keeps pid apart (Nat.lt_of_lt_of_le old first.pids))
  · intro law pid own descriptor source closeOnExec held
    by_cases between : pid ≠ actor ∧ pid < kernel.nextPid
    · obtain ⟨activity, running⟩ := second.sound.runs_of_holds held
      obtain ⟨-, same⟩ := second.keeps pid between.1 between.2 activity running
      exact first.origin law pid own descriptor source closeOnExec ((same _ _ _).mp held)
    · have own' : pid = actor ∨ kernel.nextPid ≤ pid := by
        by_cases here : pid = actor
        · exact .inl here
        · exact .inr (Nat.not_lt.mp fun old => between ⟨here, old⟩)
      rcases second.origin law pid own' descriptor source closeOnExec held with
        ⟨descriptor, closeOnExec, held⟩ | new
      · exact first.origin law actor (.inl rfl) descriptor source closeOnExec held
      · exact .inr fun pipe same => Nat.le_trans first.numbers (new pipe same)

theorem Quiet.spreads (quiet : kernel.Quiet after) (actor : Pid) :
    kernel.Spreads after actor lawful := by
  refine ⟨quiet.sound, Nat.le_of_eq quiet.numbers.symm, Nat.le_of_eq quiet.pids.symm,
    fun pid _ _ => quiet.keeps pid, ?_⟩
  intro _ pid own descriptor source closeOnExec held
  obtain ⟨activity, running⟩ := quiet.sound.runs_of_holds held
  obtain ⟨-, same⟩ := quiet.keeps pid activity running
  rcases own with rfl | new
  · exact .inl ⟨descriptor, closeOnExec, (same _ _ _).mp held⟩
  · have born := quiet.sound.born_of_holds held
    rw [quiet.pids] at born
    exact absurd new (Nat.not_le.mpr born)

/-- A change of one process spreads nothing if all that the process has gained was its own before or
is new. -/
theorem Changes.spreads {holds : Descriptor → Source → Bool → Prop}
    (changes : kernel.Changes after pid holds) (sound : after.Sound)
    (origin : lawful → ∀ descriptor source closeOnExec, holds descriptor source closeOnExec →
      (∃ descriptor closeOnExec, kernel.Holds pid descriptor source closeOnExec) ∨
        ∀ pipe, source.pipe? = some pipe → kernel.nextNumber ≤ pipe) :
    kernel.Spreads after pid lawful := by
  refine ⟨sound, changes.numbers, Nat.le_of_eq changes.pids.symm,
    fun other apart _ => changes.keeps other apart, ?_⟩
  rintro law other (rfl | new) descriptor source closeOnExec held
  · exact origin law descriptor source closeOnExec ((changes.holds _ _ _).mp held)
  · have born := sound.born_of_holds held
    rw [changes.pids] at born
    exact absurd new (Nat.not_le.mpr born)

/-- A child holds what its parent holds. -/
theorem Spawns.spreads {code : Code} (spawned : kernel.Spawns after pid code) :
    kernel.Spreads after pid lawful := by
  refine ⟨spawned.sound, Nat.le_of_eq spawned.numbers.symm,
    spawned.pids ▸ Nat.le_succ _, fun other _ old => spawned.keeps other (Nat.ne_of_lt old), ?_⟩
  intro _ other own descriptor source closeOnExec held
  have born := spawned.sound.born_of_holds held
  by_cases child : other = kernel.nextPid
  · subst child
    exact .inl ⟨descriptor, closeOnExec, (spawned.holds _ _ _).mp held⟩
  · obtain ⟨activity, running⟩ := spawned.sound.runs_of_holds held
    obtain ⟨-, same⟩ := spawned.keeps other child activity running
    rcases own with rfl | new
    · exact .inl ⟨descriptor, closeOnExec, (same _ _ _).mp held⟩
    · rw [spawned.pids] at born
      exact absurd (Nat.le_antisymm (Nat.le_of_lt_succ born) new) child

theorem Resumes.spreads {code : Code}
    (resumed : kernel.Resumes after pid code (kernel.Holds pid)) :
    kernel.Spreads after pid lawful := by
  refine ⟨resumed.sound, resumed.numbers, Nat.le_of_eq resumed.pids.symm,
    fun other apart _ => resumed.keeps other apart, ?_⟩
  rintro _ other (rfl | new) descriptor source closeOnExec held
  · exact .inl ⟨descriptor, closeOnExec, (resumed.holds _ _ _).mp held⟩
  · have born := resumed.sound.born_of_holds held
    rw [resumed.pids] at born
    exact absurd new (Nat.not_le.mpr born)

/-! ## Opening by a path -/

/-- What is opened is no pipe, unless the process table leads to it. -/
theorem openPath_cases {path : Bytes} {mode : OpenMode} {file : OpenFile}
    (opened : kernel.openPath process path mode = .ok (file, after)) :
    (∃ store, after = { kernel with store }) ∧ (file.source.pipe? = none ∨
      ∃ behind, kernel.tableEntry? process path = some (.descriptor behind) ∧
        file.source = behind.source) := by
  cases entry : kernel.tableEntry? process path with
  | none =>
    simp only [openPath, entry, bind, Except.bind, pure, Except.pure] at opened
    repeat' split at opened
    all_goals cases opened
    all_goals exact ⟨⟨_, rfl⟩, .inl rfl⟩
  | some found =>
    simp only [openPath, entry, bind, Except.bind, pure, Except.pure] at opened
    cases found with
    | descriptor behind =>
      cases opened
      exact ⟨⟨_, rfl⟩, .inr ⟨behind, rfl, rfl⟩⟩
    | text bytes | program name =>
      cases opened
      exact ⟨⟨_, rfl⟩, .inl rfl⟩
    | names names | missing => cases opened

/-! ## Calls that change no descriptor -/

theorem quiet_performRead (sound : kernel.Sound) (descriptor : Descriptor) (count : Nat) :
    kernel.Quiet (kernel.performRead process descriptor count).2 := by
  simp only [performRead]
  split
  · exact .refl sound
  · next number file found =>
    obtain ⟨-, -, opened⟩ := mem_of_fileOf? found
    have reads := quiet_readFile sound opened count
    split <;> simp_all

theorem processes_writeFile (kernel : Kernel) (number : Nat) (file : OpenFile) (bytes : Bytes) :
    (kernel.writeFile number file bytes).2.processes = kernel.processes := by
  simp only [writeFile]
  repeat' split
  all_goals rfl

/-- Writing changes no descriptor.  Only a write that finds no reader raises a signal, and at most
that ends the writer. -/
theorem quiet_performWrite (sound : kernel.Sound) (member : process ∈ kernel.processes)
    (descriptor : Descriptor) (bytes : Bytes) :
    kernel.Quiet (kernel.performWrite process descriptor bytes).2 := by
  simp only [performWrite]
  split
  · exact .refl sound
  next number file found =>
  obtain ⟨-, -, opened⟩ := mem_of_fileOf? found
  have writes := quiet_writeFile sound opened bytes
  have there : process ∈ (kernel.writeFile number file bytes).2.processes := by
    rw [processes_writeFile]
    exact member
  generalize kernel.writeFile number file bytes = result at writes there
  obtain ⟨attempt, after⟩ := result
  have signals := writes.trans (quiet_deliver writes.sound there Signal.pipe)
  match attempt with
  | .wait => exact writes
  | .answer (.ok count) =>
    simp only
    split <;> exact writes
  | .answer (.error errno) =>
    simp only
    split
    · repeat' split
      all_goals exact signals
    · exact writes

/-- Sending a signal changes no descriptor but those of processes that it ends. -/
theorem quiet_performKill (sound : kernel.Sound) (target : Int) (signal : Signal) :
    kernel.Quiet (kernel.performKill process target signal).2 := by
  simp only [performKill]
  split
  · exact .refl sound
  · repeat' split
    all_goals exact quiet_signalAll sound _ _

/-- Waiting for a child takes it out of the table; it holds nothing any more. -/
theorem quiet_performWait (sound : kernel.Sound) (which : Option Pid) (block : Bool) :
    kernel.Quiet (kernel.performWait process which block).2 := by
  simp only [performWait]
  split
  · next child status found => exact quiet_forget sound found
  · exact .refl sound
  · split <;> exact .refl sound

theorem quiet_performSleep (sound : kernel.Sound) (member : process ∈ kernel.processes)
    (nanoseconds : Nat) : kernel.Quiet (kernel.performSleep process nanoseconds).2 := by
  simp only [performSleep]
  split
  · exact sound.quiet_put member rfl rfl rfl
  · split
    · exact sound.quiet_put member rfl rfl rfl
    · exact .refl sound

theorem quiet_changingStore (sound : kernel.Sound) (change : Except Errno Store) :
    kernel.Quiet (kernel.changingStore change).2 := by
  cases change with
  | ok store => exact sound.quiet_of_same rfl rfl rfl rfl
  | error errno => exact .refl sound

theorem withDisposition_same (process : Process) (signal : Signal) (disposition : Disposition) :
    (withDisposition process signal disposition).pid = process.pid ∧
      (withDisposition process signal disposition).slots = process.slots ∧
        (withDisposition process signal disposition).activity = process.activity := by
  cases disposition <;> exact ⟨rfl, rfl, rfl⟩

/-- A call that can change what the caller holds. -/
def changesDescriptors : Syscall → Bool
  | .openFile _ _ | .close _ | .duplicate _ _ | .saveAbove _ _ | .keepOnExec _ | .pipe
  | .exec _ _ _ => true
  | _ => false

/-- A call that is not about descriptors changes none. -/
theorem quiet_perform (sound : kernel.Sound) (member : process ∈ kernel.processes)
    {call : Syscall} (quiet : changesDescriptors call = false) :
    kernel.Quiet (kernel.perform process call).2 := by
  cases call with
  | read descriptor count => exact quiet_performRead sound descriptor count
  | write descriptor bytes => exact quiet_performWrite sound member descriptor bytes
  | wait pid block => exact quiet_performWait sound pid block
  | kill target signal => exact quiet_performKill sound target signal
  | dispose signal disposition =>
    obtain ⟨pid, slots, activity⟩ := withDisposition_same process signal disposition
    exact sound.quiet_put member pid slots activity
  | takeSignals => exact sound.quiet_put member rfl rfl rfl
  | setGroup pid group => exact sound.quiet_modify fun _ _ _ => ⟨rfl, rfl, rfl⟩
  | newSession =>
    simp only [perform]
    split
    · exact .refl sound
    · exact sound.quiet_put member rfl rfl rfl
  | sleep nanoseconds => exact quiet_performSleep sound member nanoseconds
  | statDescriptor descriptor =>
    simp only [perform]
    split <;> exact .refl sound
  | readLink path =>
    simp only [perform]
    repeat' split
    all_goals exact .refl sound
  | listDirectory path =>
    simp only [perform]
    repeat' split
    all_goals exact .refl sound
  | makeDirectory path mode => exact quiet_changingStore sound _
  | unlink path => exact quiet_changingStore sound _
  | removeDirectory path => exact quiet_changingStore sound _
  | rename original target => exact quiet_changingStore sound _
  | makeLink target path => exact quiet_changingStore sound _
  | hardLink original path => exact quiet_changingStore sound _
  | changeMode path mode => exact quiet_changingStore sound _
  | changeDirectory path =>
    simp only [perform]
    repeat' split
    · exact .refl sound
    · exact .refl sound
    · exact sound.quiet_put member rfl rfl rfl
  | setMask mask => exact sound.quiet_put member rfl rfl rfl
  | pid | parentPid | compute | clock | workingDirectory | stat _ _ => exact .refl sound
  | openFile _ _ | close _ | duplicate _ _ | saveAbove _ _ | keepOnExec _ | pipe | exec _ _ _ =>
    cases quiet

/-! ## Every call -/

theorem isEnded_of_running {code : Code} (here : process.activity = .running code) :
    process.isEnded = false := by
  simp [Process.isEnded, here]

/-- What a process opens without intruding it holds already. -/
theorem holds_of_lawful (law : kernel.intrudes process = false)
    (member : process ∈ kernel.processes) {path : Bytes} {mode : OpenMode} {next : Reply → Code}
    (here : process.activity = .running (.call (.openFile path mode) next)) {behind : OpenFile}
    (entry : kernel.tableEntry? process path = some (.descriptor behind)) :
    ∃ descriptor closeOnExec, kernel.Holds process.pid descriptor behind.source closeOnExec := by
  simp only [intrudes, here, entry, Bool.not_eq_false', List.any_eq_true, Option.any_eq_true,
    beq_iff_eq] at law
  obtain ⟨⟨descriptor, slot⟩, slotted, file, opened, same⟩ := law
  exact ⟨descriptor, slot.closeOnExec, process, member, rfl, slot.file, slotted, file,
    mem_of_lookup opened, same⟩

/-- What the process table leads to is open.  A path to a process leads to one of its names, and
the other paths to one of its own descriptors. -/
theorem opened_of_tableEntry? {path : Bytes} {behind : OpenFile}
    (entry : kernel.tableEntry? process path = some (.descriptor behind)) :
    ∃ number, (number, behind) ∈ kernel.openFiles := by
  unfold tableEntry? at entry
  extract_lets self ofProcess at entry
  have opened (who : Bytes) (rest : List Bytes) (same : ofProcess who rest = .descriptor behind) :
      ∃ number, (number, behind) ∈ kernel.openFiles := by
    simp only [ofProcess] at same
    repeat' split at same
    all_goals cases same
    next found =>
      obtain ⟨-, -, opened⟩ := mem_of_fileOf? found
      exact ⟨_, opened⟩
  clear_value ofProcess
  repeat' split at entry
  all_goals first | cases entry | exact opened _ _ (Option.some.inj entry)

/-- Opening a file gives no end of a pipe, unless it is opened through the process table. -/
theorem spreads_openFile (sound : kernel.Sound) (member : process ∈ kernel.processes)
    {path : Bytes} {mode : OpenMode} {next : Reply → Code}
    (here : process.activity = .running (.call (.openFile path mode) next)) :
    kernel.Spreads (kernel.perform process (.openFile path mode)).2 process.pid
      (kernel.intrudes process = false) := by
  simp only [perform]
  split
  · exact (Quiet.refl sound).spreads _
  next file after opened =>
  obtain ⟨⟨store, rfl⟩, origin⟩ := openPath_cases opened
  have stored : kernel.Quiet { kernel with store } := sound.quiet_of_same rfl rfl rfl rfl
  have given : ∀ pipe, file.source.pipe? = some pipe → pipe < kernel.nextNumber := by
    intro pipe same
    rcases origin with none | ⟨behind, entry, source⟩
    · cases none.symm.trans same
    · obtain ⟨number, opened⟩ := opened_of_tableEntry? entry
      exact sound.ends _ opened pipe (source ▸ same)
  have running : kernel.Runs process.pid process.activity :=
    ⟨process, member, rfl, isEnded_of_running here, rfl⟩
  have opens := opens_install stored.sound running file given false
  refine (stored.spreads _).trans (opens.changes.spreads opens.sound ?_)
  rintro law descriptor source kept (⟨-, rfl, -⟩ | before)
  · rcases origin with none | ⟨behind, entry, same⟩
    · exact .inr fun pipe same => by cases none.symm.trans same
    · exact .inl (same ▸ holds_of_lawful law member here entry)
  · exact .inl ⟨_, _, before⟩

theorem spreads_duplicate (sound : kernel.Sound) (member : process ∈ kernel.processes)
    (alive : process.isEnded = false) (original target : Descriptor) (closeOnExec : Bool) :
    kernel.Spreads (kernel.performDuplicate process original target closeOnExec).2 process.pid
      lawful := by
  obtain ⟨after, changes⟩ := changes_duplicate sound member alive original target closeOnExec
  cases free : process.slots.lookup original with
  | none =>
    simp only [performDuplicate, Process.slot?, free]
    exact (Quiet.refl sound).spreads _
  | some slot =>
    refine (changes (by simp [free])).spreads after ?_
    rintro - descriptor source kept (⟨-, -, before, held⟩ | ⟨-, held⟩)
    · exact .inl ⟨_, _, held⟩
    · exact .inl ⟨_, _, held⟩

/-- Whatever a process calls, ends of pipes come only from what it held, from what is new, or by
intruding. -/
theorem spreads_perform (sound : kernel.Sound) (member : process ∈ kernel.processes)
    {call : Syscall} {next : Reply → Code} (here : process.activity = .running (.call call next)) :
    kernel.Spreads (kernel.perform process call).2 process.pid
      (kernel.intrudes process = false) := by
  have alive := isEnded_of_running here
  have running : kernel.Runs process.pid process.activity := ⟨process, member, rfl, alive, rfl⟩
  cases quiet : changesDescriptors call with
  | false => exact (quiet_perform sound member quiet).spreads process.pid
  | true =>
    cases call with
    | openFile path mode => exact spreads_openFile sound member here
    | close descriptor =>
      exact (changes_close sound running descriptor).spreads (sound_close sound _ _)
        fun _ _ _ _ held => .inl ⟨_, _, held.2⟩
    | duplicate original target => exact spreads_duplicate sound member alive _ _ _
    | saveAbove original least => exact spreads_duplicate sound member alive _ _ _
    | keepOnExec descriptor =>
      simp only [perform]
      split
      · exact (Quiet.refl sound).spreads _
      · next slot taken =>
        have there := mem_of_lookup taken
        obtain ⟨after, changes⟩ := copies_slot sound member alive there
          (fun other slotted => by
            rw [eq_of_mem_keys (sound.fits process member).keys slotted there]) false
        rw [← sound.putProcess_eq (·.withSlot descriptor ⟨slot.file, false⟩) member rfl]
          at after changes
        refine changes.spreads after ?_
        rintro - descriptor source kept (⟨-, -, before, held⟩ | ⟨-, held⟩)
        · exact .inl ⟨_, _, held⟩
        · exact .inl ⟨_, _, held⟩
    | pipe =>
      have opens := opens_makePipe sound running false
      refine opens.changes.spreads opens.sound ?_
      rintro - descriptor source kept (⟨-, rfl, -⟩ | ⟨-, rfl, -⟩ | held)
      · exact .inr fun pipe same => Nat.le_of_eq (Option.some.inj same)
      · exact .inr fun pipe same => Nat.le_of_eq (Option.some.inj same)
      · exact .inl ⟨_, _, held⟩
    | exec path arguments environment =>
      simp only [perform]
      split
      · next code after executed =>
        obtain ⟨soundAfter, changes⟩ := changes_execute sound member alive executed
        exact changes.spreads soundAfter fun _ _ _ _ held => .inl ⟨_, _, held.2⟩
      · exact (Quiet.refl sound).spreads _
    | _ => cases quiet

/-- Whatever a process does next, what it and its children hold comes from it or is new, unless
it intrudes. -/
theorem spreads_advance (sound : kernel.Sound) (member : process ∈ kernel.processes) :
    kernel.Spreads (kernel.advance process).2 process.pid (kernel.intrudes process = false) := by
  cases here : process.activity with
  | serving | ended status =>
    simp only [advance, here]
    exact (Quiet.refl sound).spreads _
  | running code =>
    cases code with
    | exit code =>
      simp only [advance, here]
      exact (quiet_terminate sound _ _).spreads _
    | fork next =>
      simp only [advance, here]
      have spawned := spawns sound member (next 0) (kernel.now + forkCost)
      exact spawned.spreads.trans (resumes spawned.sound _ _ _).spreads
    | call call next =>
      have performed := spreads_perform sound member here
      simp only [advance, here]
      generalize kernel.perform process call = result at performed
      obtain ⟨verdict, after⟩ := result
      have resumed (code : Code) (cost : Nat) :
          kernel.Spreads (after.resume process.pid code cost) process.pid
            (kernel.intrudes process = false) :=
        performed.trans (resumes performed.sound _ _ _).spreads
      cases verdict with
      | answer reply => exact resumed _ _
      | partly count => exact resumed _ _
      | become code => exact resumed _ _
      | gone => exact performed
      | wait =>
        simp only
        split
        · exact performed
        · have woken :
              after.Quiet (after.modifyProcess process.pid ({ · with sleepEnd := none })) :=
            performed.sound.quiet_modify fun _ _ _ => ⟨rfl, rfl, rfl⟩
          exact performed.trans ((woken.spreads _).trans (resumes woken.sound _ _ _).spreads)

end Kernel

end Host

end CueFront
