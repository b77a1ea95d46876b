import CueFront.Proofs.Host.Descriptors

/-!
# What the calls of the host do to descriptors

One lemma for each operation of `Kernel` that touches slots or open files.  Those that end
processes or change flags are quiet.  The others change what one process holds, and the lemma
says what it holds afterwards: closing takes one descriptor away, opening adds one that was free,
duplicating copies one, and an exec takes away all that do not survive it.
-/

namespace CueFront

namespace Host

namespace Kernel

variable {kernel after : Kernel} {process other : Process} {pid : Pid} {number : Nat}
  {descriptor : Descriptor} {source : Source} {closeOnExec : Bool} {activity : Activity}
  {loose : List Nat}

/-! ## Files that are read and written -/

theorem mem_putFile {file : OpenFile} {entry : Nat × OpenFile} :
    entry ∈ (kernel.putFile number file).openFiles ↔
      entry ∈ kernel.openFiles ∧ entry.1 ≠ number ∨
        entry = (number, file) ∧ number ∈ kernel.openFiles.map (·.1) := by
  simp only [putFile, List.mem_map, beq_iff_eq]
  constructor
  · rintro ⟨before, opened, rfl⟩
    split
    · next here => exact .inr ⟨rfl, before, opened, here⟩
    · next apart => exact .inl ⟨opened, apart⟩
  · rintro (⟨opened, apart⟩ | ⟨rfl, before, opened, here⟩)
    · exact ⟨entry, opened, if_neg apart⟩
    · exact ⟨before, opened, if_pos here⟩

/-- An open file keeps its source when it is read, written or made not to wait. -/
theorem SoundBut.quiet_putFile (sound : kernel.Sound) {old file : OpenFile}
    (opened : (number, old) ∈ kernel.openFiles) (same : file.source = old.source) :
    kernel.Quiet (kernel.putFile number file) := by
  have known {entry : Nat × OpenFile} (there : entry ∈ (kernel.putFile number file).openFiles) :
      ∃ before ∈ kernel.openFiles, before.1 = entry.1 ∧ before.2.source = entry.2.source := by
    rcases mem_putFile.mp there with ⟨before, -⟩ | ⟨rfl, -⟩
    · exact ⟨entry, before, rfl, rfl⟩
    · exact ⟨_, opened, rfl, same.symm⟩
  have names (which : Nat) (source : Source) :
      (kernel.putFile number file).Names which source ↔ kernel.Names which source := by
    constructor
    · rintro ⟨later, there, rfl⟩
      obtain ⟨⟨_, before⟩, opened, rfl, source⟩ := known there
      exact ⟨before, opened, source⟩
    · rintro ⟨before, there, rfl⟩
      by_cases here : which = number
      · subst here
        cases eq_of_mem_keys sound.files opened there
        exact ⟨file, mem_putFile.mpr (.inr ⟨rfl, List.mem_map_of_mem there⟩), same⟩
      · exact ⟨before, mem_putFile.mpr (.inl ⟨there, here⟩), rfl⟩
  have keys : (kernel.putFile number file).openFiles.map (·.1) = kernel.openFiles.map (·.1) := by
    simp only [putFile, List.map_map]
    apply List.map_congr_left
    intro entry _
    simp only [Function.comp_apply, beq_iff_eq]
    split
    · next here => exact here.symm
    · rfl
  have holds (pid : Pid) (descriptor : Descriptor) (source : Source) (closeOnExec : Bool) :
      (kernel.putFile number file).Holds pid descriptor source closeOnExec ↔
        kernel.Holds pid descriptor source closeOnExec := by
    simp only [Holds, names]
    rfl
  refine ⟨⟨sound.pids, ?_, keys ▸ sound.files, ?_, ?_, ?_⟩, rfl, rfl, ?_⟩
  · intro process member
    exact (sound.fits process member).mono (Nat.le_refl _) (Nat.le_refl _)
  · intro entry there
    obtain ⟨before, opened, number, -⟩ := known there
    exact number ▸ sound.numbered before opened
  · intro entry there pipe ends
    obtain ⟨before, opened, -, source⟩ := known there
    exact sound.ends before opened pipe (source ▸ ends)
  · intro entry there
    obtain ⟨before, opened, number, -⟩ := known there
    exact number ▸ sound.named before opened
  · exact fun pid activity running => ⟨running, holds pid⟩

theorem quiet_readFile (sound : kernel.Sound) {file : OpenFile}
    (opened : (number, file) ∈ kernel.openFiles) (count : Nat) :
    kernel.Quiet (kernel.readFile number file count).2 := by
  simp only [readFile]
  repeat' split
  all_goals
    first
    | exact sound.quiet_putFile opened rfl
    | exact sound.quiet_of_same rfl rfl rfl rfl

/-- Writing a file changes no descriptor, only the file. -/
theorem quiet_writeFile (sound : kernel.Sound) {file : OpenFile}
    (opened : (number, file) ∈ kernel.openFiles) (bytes : Bytes) :
    kernel.Quiet (kernel.writeFile number file bytes).2 := by
  have stored (store : Store) : kernel.Quiet { kernel with store } :=
    sound.quiet_of_same rfl rfl rfl rfl
  simp only [writeFile]
  repeat' split
  all_goals
    first
    | exact sound.quiet_of_same rfl rfl rfl rfl
    | exact (stored _).trans ((stored _).sound.quiet_putFile opened rfl)

/-! ## Processes that end -/

/-- Releasing all files that are loose settles everything. -/
theorem SoundBut.releaseAll (slots : List (Descriptor × Slot)) :
    ∀ {kernel : Kernel}, kernel.SoundBut (slots.map (·.2.file)) →
      (slots.foldl (fun kernel slot => kernel.release slot.2.file) kernel).Sound := by
  induction slots with
  | nil => exact id
  | cons slot slots ih =>
    intro kernel sound
    exact ih sound.release

theorem holds_releaseAll (slots : List (Descriptor × Slot)) :
    ∀ kernel : Kernel, (slots.foldl (fun kernel slot => kernel.release slot.2.file) kernel).Holds
      pid descriptor source closeOnExec ↔ kernel.Holds pid descriptor source closeOnExec := by
  induction slots with
  | nil => exact fun _ => Iff.rfl
  | cons slot slots ih => exact fun kernel => (ih _).trans holds_release

theorem processes_releaseAll (slots : List (Descriptor × Slot)) :
    ∀ kernel : Kernel,
      (slots.foldl (fun kernel slot => kernel.release slot.2.file) kernel).processes =
          kernel.processes ∧
        (slots.foldl (fun kernel slot => kernel.release slot.2.file) kernel).nextNumber =
          kernel.nextNumber ∧
        (slots.foldl (fun kernel slot => kernel.release slot.2.file) kernel).nextPid =
          kernel.nextPid := by
  induction slots with
  | nil => exact fun _ => ⟨rfl, rfl, rfl⟩
  | cons slot slots ih =>
    intro kernel
    obtain ⟨processes, numbers, pids⟩ := ih (kernel.release slot.2.file)
    exact ⟨processes.trans (processes_release _ _), numbers.trans (nextNumber_release _ _),
      pids.trans (nextPid_release _ _)⟩

/-- A process that ends gives back what it held. -/
theorem quiet_end (sound : kernel.Sound) (member : process ∈ kernel.processes) (other : Process)
    (samePid : other.pid = process.pid) (bare : other.slots = []) (ended : other.isEnded = true) :
    kernel.Quiet
      (process.slots.foldl (fun kernel slot => kernel.release slot.2.file)
        (kernel.putProcess other)) := by
  have put : kernel.putProcess other = kernel.modifyProcess process.pid fun _ => other := by
    rw [← samePid]
    rfl
  have fits : other.Fits kernel := by
    refine ⟨samePid ▸ (sound.fits process member).born, ?_, fun _ => bare, ?_⟩ <;> simp [bare]
  have loose : (kernel.putProcess other).SoundBut (process.slots.map (·.2.file)) := by
    rw [put]
    apply sound.modify (fun _ => other) member samePid fits
    · exact fun slot slotted => .inl (List.mem_map_of_mem slotted)
    · exact nofun
  obtain ⟨processes, numbers, pids⟩ := processes_releaseAll process.slots (kernel.putProcess other)
  refine ⟨.releaseAll _ loose, numbers, pids, ?_⟩
  intro pid activity running
  simp only [Runs, processes] at running
  rw [put] at running ⊢
  rcases (sound.runs_modify _ member samePid).mp running with ⟨apart, before⟩ | ⟨-, alive, -⟩
  · refine ⟨before, fun descriptor source closeOnExec => ?_⟩
    rw [holds_releaseAll, sound.holds_modify _ member samePid]
    simp [apart]
  · simp [ended] at alive

/-- A process that ends gives up all it holds, and nothing else changes. -/
theorem quiet_terminate (sound : kernel.Sound) (pid : Pid) (status : ExitStatus) :
    kernel.Quiet (kernel.terminate pid status) := by
  simp only [terminate]
  split
  · exact .refl sound
  · next process found =>
    obtain ⟨member, rfl⟩ := mem_of_process? found
    have ends := quiet_end sound member
      { process with slots := [], activity := .ended status, sleepEnd := none } rfl rfl rfl
    refine ends.trans (ends.sound.quiet_of_processes ?_ ?_ ?_)
    · refine (List.filter_sublist.map _).trans ?_
      rw [List.map_map]
      refine List.map_congr_left (fun other _ => ?_) ▸ List.Sublist.refl _
      simp only [Function.comp_apply]
      split <;> rfl
    · intro orphan left
      obtain ⟨other, there, rfl⟩ := List.mem_map.mp (List.mem_filter.mp left).1
      refine ⟨other, there, ?_⟩
      split <;> exact ⟨rfl, rfl, rfl⟩
    · intro other there running
      refine ⟨_, List.mem_filter.mpr ⟨List.mem_map_of_mem there, ?_⟩, ?_⟩
      · split <;> simp_all [Process.isEnded]
      · split <;> exact ⟨rfl, rfl⟩

/-- A signal for a process changes no descriptor but its own, if it ends it.  A process that was
stopped and is to continue goes on first. -/
theorem quiet_deliver (sound : kernel.Sound) (member : process ∈ kernel.processes)
    (signal : Signal) : kernel.Quiet (kernel.deliver process signal) := by
  simp only [deliver]
  split
  · exact .refl sound
  split
  · exact quiet_terminate sound _ _
  split
  · exact sound.quiet_put member rfl rfl rfl
  generalize continued :
    (if signal == Signal.continued then { process with stopped := false } else process) = next
  have same : next.pid = process.pid ∧ next.slots = process.slots ∧
      next.activity = process.activity := by
    rw [← continued]
    split <;> exact ⟨rfl, rfl, rfl⟩
  obtain ⟨pid, slots, activity⟩ := same
  have put := sound.quiet_put member pid slots activity
  have there : next ∈ (kernel.putProcess next).processes := by
    rw [putProcess, pid]
    exact (mem_modifyProcess sound member).mpr (.inr rfl)
  split
  · exact put
  split
  · split
    · exact put
    · exact put.trans (put.sound.quiet_put there rfl rfl rfl)
  split
  · exact put.trans (quiet_terminate put.sound _ _)
  · exact put.trans (put.sound.quiet_put there rfl rfl rfl)
  · exact put

/-- A signal for many processes is one for each, in turn. -/
theorem quiet_signalAll (sound : kernel.Sound) (fits : Process → Bool) (signal : Signal) :
    kernel.Quiet (kernel.signalAll fits signal).2 := by
  simp only [signalAll]
  generalize (kernel.processes.filter fits).map (·.pid) = pids
  induction pids generalizing kernel with
  | nil => exact .refl sound
  | cons pid pids ih =>
    rw [List.foldl_cons]
    split
    · next process found =>
      have delivered := quiet_deliver sound (mem_of_process? found).1 signal
      exact delivered.trans (ih delivered.sound)
    · exact ih sound

/-- What is waited for has ended, and is the one that was asked for. -/
theorem mem_of_endedChild {parent child : Pid} {which : Option Pid} {status : ExitStatus}
    (found : kernel.endedChild parent which = .ok (child, status)) :
    (∃ process ∈ kernel.processes, process.pid = child ∧ process.isEnded = true) ∧
      ∀ pid, which = some pid → child = pid := by
  simp only [endedChild] at found
  split at found
  · next earliest rest waited =>
    cases found
    have first : (child, status) ∈ (child, status) :: rest := List.mem_cons_self
    rw [← waited, List.mem_filterMap] at first
    obtain ⟨process, member, same⟩ := first
    obtain ⟨there, fits⟩ := List.mem_filter.mp member
    split at same
    · next activity =>
      cases same
      refine ⟨⟨process, there, rfl, by simp [Process.isEnded, activity]⟩, ?_⟩
      rintro pid rfl
      simpa using (Bool.and_eq_true_iff.mp fits).2
    · cases same
  · cases found

/-- A process that is forgotten has ended. -/
theorem quiet_forget (sound : kernel.Sound) {parent child : Pid} {which : Option Pid}
    {status : ExitStatus} (found : kernel.endedChild parent which = .ok (child, status)) :
    kernel.Quiet (kernel.forget child) := by
  obtain ⟨⟨process, member, rfl, ended⟩, -⟩ := mem_of_endedChild found
  apply sound.quiet_of_processes
  · exact List.filter_sublist.map _
  · intro other left
    exact ⟨other, (List.mem_filter.mp left).1, rfl, rfl, rfl⟩
  · intro other there running
    refine ⟨other, List.mem_filter.mpr ⟨there, ?_⟩, rfl, rfl⟩
    rw [bne_iff_ne]
    intro same
    rw [sound.unique there member same, ended] at running
    cases running

/-! ## Descriptors that come and go -/

theorem SoundBut.keeps_modify (sound : kernel.SoundBut loose) (change : Process → Process)
    (member : process ∈ kernel.processes) (samePid : (change process).pid = process.pid)
    (apart : pid ≠ process.pid) : kernel.Keeps (kernel.modifyProcess process.pid change) pid := by
  intro activity running
  rw [sound.runs_modify change member samePid] at running
  refine ⟨(running.resolve_right fun here => apart here.1).2, ?_⟩
  intro descriptor source closeOnExec
  rw [sound.holds_modify change member samePid]
  simp [apart]

/-- Only the slots of a process change. -/
theorem SoundBut.changes_modify (sound : kernel.SoundBut loose) (change : Process → Process)
    (member : process ∈ kernel.processes) (samePid : (change process).pid = process.pid)
    (sameActivity : (change process).activity = process.activity)
    (alive : process.isEnded = false) :
    kernel.Changes (kernel.modifyProcess process.pid change) process.pid
      fun descriptor source closeOnExec => ∃ number,
        (descriptor, ⟨number, closeOnExec⟩) ∈ (change process).slots ∧
          kernel.Names number source := by
  refine ⟨Nat.le_refl _, rfl, fun _ apart => sound.keeps_modify change member samePid apart, ?_, ?_⟩
  · intro activity
    rw [sound.runs_modify change member samePid]
    constructor
    · rintro (⟨apart, -⟩ | ⟨-, -, same⟩)
      · exact absurd rfl apart
      · exact ⟨process, member, rfl, alive, sameActivity.symm.trans same⟩
    · rintro ⟨other, second, here, -, same⟩
      rw [sound.unique second member here] at same
      exact .inr ⟨rfl, (isEnded_congr sameActivity).trans alive, sameActivity.trans same⟩
  · intro descriptor source closeOnExec
    rw [sound.holds_modify change member samePid]
    simp

/-- Only the flags of a process change. -/
theorem SoundBut.changes_flags (sound : kernel.Sound) (running : kernel.Runs pid activity)
    (change : Process → Process) (same : ∀ process, (change process).pid = process.pid ∧
      (change process).slots = process.slots ∧ (change process).activity = process.activity) :
    (kernel.modifyProcess pid change).Sound ∧
      kernel.Changes (kernel.modifyProcess pid change) pid (kernel.Holds pid) := by
  obtain ⟨process, member, rfl, alive, -⟩ := running
  obtain ⟨samePid, sameSlots, sameActivity⟩ := same process
  refine ⟨(sound.quiet_modify fun process _ _ => same process).sound, ?_⟩
  refine (sound.changes_modify change member samePid sameActivity alive).congr fun _ _ _ => ?_
  rw [sameSlots, sound.holds_iff member]

theorem Changes.release {before : Kernel} {holds : Descriptor → Source → Bool → Prop}
    (changes : before.Changes kernel pid holds) (number : Nat) :
    before.Changes (kernel.release number) pid holds := by
  obtain ⟨numbers, pids, keeps, runs, held⟩ := changes
  refine ⟨by simpa using numbers, by simpa using pids, ?_, ?_, ?_⟩
  · intro other apart activity running
    obtain ⟨before, same⟩ := keeps other apart activity (runs_release.mp running)
    exact ⟨before, fun descriptor source closeOnExec => holds_release.trans (same _ _ _)⟩
  · exact fun activity => runs_release.trans (runs activity)
  · exact fun descriptor source closeOnExec => holds_release.trans (held _ _ _)

/-! ### Closing -/

/-- Closing a descriptor keeps the tables sound, whether it is open or not. -/
theorem sound_close (sound : kernel.Sound) (pid : Pid) (descriptor : Descriptor) :
    (kernel.closeDescriptor pid descriptor).2.Sound := by
  simp only [closeDescriptor]
  split
  · exact sound
  next process found =>
  obtain ⟨member, rfl⟩ := mem_of_process? found
  split
  · exact sound
  next slot taken =>
  have there := mem_of_lookup taken
  have fits := sound.fits process member
  apply SoundBut.release
  apply sound.modify (fun _ => process.withoutSlot descriptor) member rfl
    (fits.withoutSlot descriptor) _ nofun
  rintro ⟨key, entry⟩ slotted
  by_cases here : key = descriptor
  · subst here
    rw [eq_of_mem_keys fits.keys slotted there]
    exact .inl (List.mem_singleton.mpr rfl)
  · exact .inr ⟨(key, entry), Process.mem_withoutSlot.mpr ⟨slotted, here⟩, rfl⟩

/-- Closing takes away one descriptor. -/
theorem changes_close (sound : kernel.Sound) (running : kernel.Runs pid activity)
    (descriptor : Descriptor) :
    kernel.Changes (kernel.closeDescriptor pid descriptor).2 pid fun other source closeOnExec =>
      other ≠ descriptor ∧ kernel.Holds pid other source closeOnExec := by
  obtain ⟨process, member, rfl, alive, rfl⟩ := running
  simp only [closeDescriptor, sound.process?_eq member]
  split
  · next free =>
    refine (Changes.refl kernel process.pid).congr fun other source closeOnExec => ?_
    rw [sound.holds_iff member]
    constructor
    · rintro ⟨number, slot, names⟩
      refine ⟨?_, number, slot, names⟩
      rintro rfl
      exact not_mem_of_lookup free slot
    · exact And.right
  · next slot taken =>
    have changes := sound.changes_modify (fun _ => process.withoutSlot descriptor) member rfl rfl
      alive
    refine (changes.release slot.file).congr fun other source closeOnExec => ?_
    rw [sound.holds_iff member]
    simp only [Process.mem_withoutSlot]
    constructor
    · rintro ⟨number, ⟨slot, apart⟩, names⟩
      exact ⟨apart, number, slot, names⟩
    · rintro ⟨apart, number, slot, names⟩
      exact ⟨number, ⟨slot, apart⟩, names⟩

/-! ### Opening -/

/-- A free descriptor holds nothing. -/
theorem not_holds_of_free (sound : kernel.SoundBut loose) (member : process ∈ kernel.processes)
    (free : process.slots.lookup descriptor = none) :
    ¬ kernel.Holds process.pid descriptor source closeOnExec := by
  rw [sound.holds_iff member]
  rintro ⟨number, slot, -⟩
  exact not_mem_of_lookup free slot

theorem names_addFile {file : OpenFile} :
    (kernel.addFile file).2.Names number source ↔
      number = kernel.nextNumber ∧ source = file.source ∨ kernel.Names number source := by
  simp only [addFile, Names, List.mem_cons, Prod.mk.injEq]
  constructor
  · rintro ⟨later, ⟨rfl, rfl⟩ | opened, rfl⟩
    · exact .inl ⟨rfl, rfl⟩
    · exact .inr ⟨later, opened, rfl⟩
  · rintro (⟨rfl, rfl⟩ | ⟨later, opened, rfl⟩)
    · exact ⟨file, .inl ⟨rfl, rfl⟩, rfl⟩
    · exact ⟨later, .inr opened, rfl⟩

/-- A new file is loose until a slot names it. -/
theorem sound_addFile (sound : kernel.Sound) {file : OpenFile}
    (ends : ∀ pipe, file.source.pipe? = some pipe → pipe < kernel.nextNumber) :
    (kernel.addFile file).2.SoundBut [kernel.nextNumber] := by
  refine ⟨sound.pids, ?_, ?_, ?_, ?_, ?_⟩
  · exact fun process member => (sound.fits process member).mono (Nat.le_refl _) (Nat.le_succ _)
  · refine List.nodup_cons.mpr ⟨?_, sound.files⟩
    intro there
    obtain ⟨entry, opened, same⟩ := List.mem_map.mp there
    exact Nat.lt_irrefl _ (same ▸ sound.numbered entry opened)
  · rintro entry (_ | ⟨_, opened⟩)
    · exact Nat.lt_succ_self _
    · exact Nat.lt_succ_of_lt (sound.numbered entry opened)
  · rintro entry (_ | ⟨_, opened⟩) pipe same
    · exact Nat.lt_succ_of_lt (ends pipe same)
    · exact Nat.lt_succ_of_lt (sound.ends entry opened pipe same)
  · rintro entry (_ | ⟨_, opened⟩)
    · exact .inl (List.mem_singleton.mpr rfl)
    · exact .inr ((sound.named entry opened).resolve_left List.not_mem_nil)

/-- What a process gets when it opens something: a descriptor that was free. -/
structure Opens (before after : Kernel) (pid : Pid) (descriptor : Descriptor) (source : Source)
    (closeOnExec : Bool) : Prop where
  /-- The tables still fit together. -/
  sound : after.Sound
  /-- The descriptor held nothing. -/
  free : ∀ source closeOnExec, ¬ before.Holds pid descriptor source closeOnExec
  /-- It is the only one that changes. -/
  changes : before.Changes after pid fun other source' closeOnExec' =>
    other = descriptor ∧ source' = source ∧ closeOnExec' = closeOnExec ∨
      before.Holds pid other source' closeOnExec'

/-- A file is opened on the lowest free descriptor.  Its number is in no slot yet, so the files of
all other slots are as before. -/
theorem opens_install (sound : kernel.Sound) (running : kernel.Runs pid activity) (file : OpenFile)
    (ends : ∀ pipe, file.source.pipe? = some pipe → pipe < kernel.nextNumber)
    (closeOnExec : Bool) :
    kernel.Opens (kernel.install pid file closeOnExec).2 pid
      (kernel.install pid file closeOnExec).1 file.source closeOnExec := by
  obtain ⟨process, member, rfl, alive, rfl⟩ := running
  have added := sound_addFile sound ends
  have found : (kernel.addFile file).2.process? process.pid = some process :=
    sound.process?_eq member
  have free := process.lookup_freeFrom 0
  simp only [install, found]
  have names (other : Process) (second : other ∈ kernel.processes) (slot : Descriptor × Slot)
      (slotted : slot ∈ other.slots) (source : Source) :
      (kernel.addFile file).2.Names slot.2.file source ↔ kernel.Names slot.2.file source := by
    rw [names_addFile]
    have old := (sound.fits other second).numbered slot slotted
    simp [Nat.ne_of_lt old]
  have holds (pid : Pid) (descriptor : Descriptor) (source : Source) (closeOnExec : Bool) :
      (kernel.addFile file).2.Holds pid descriptor source closeOnExec ↔
        kernel.Holds pid descriptor source closeOnExec := by
    constructor
    · rintro ⟨other, second, rfl, number, slot, named⟩
      exact ⟨other, second, rfl, number, slot, (names other second _ slot source).mp named⟩
    · rintro ⟨other, second, rfl, number, slot, named⟩
      exact ⟨other, second, rfl, number, slot, (names other second _ slot source).mpr named⟩
  have changes := added.changes_modify
    (fun _ => process.withSlot (process.freeFrom 0) ⟨kernel.nextNumber, closeOnExec⟩) member rfl
    rfl alive
  refine ⟨?_, fun source closeOnExec => not_holds_of_free sound member free, ?_⟩
  · apply added.modify
      (fun _ => process.withSlot (process.freeFrom 0) ⟨kernel.nextNumber, closeOnExec⟩) member rfl
      ((added.fits process member).withSlot alive _ _ (Nat.lt_succ_self _))
    · rintro ⟨key, slot⟩ slotted
      refine .inr ⟨(key, slot), Process.mem_withSlot.mpr (.inr ⟨slotted, ?_⟩), rfl⟩
      rintro rfl
      exact not_mem_of_lookup free slotted
    · intro number loose
      rw [List.mem_singleton.mp loose]
      exact .inr ⟨_, Process.mem_withSlot.mpr (.inl rfl), rfl⟩
  · refine ⟨Nat.le_succ _, rfl, ?_, changes.runs, ?_⟩
    · intro other apart activity running
      obtain ⟨before, same⟩ := changes.keeps other apart activity running
      exact ⟨before, fun _ _ _ => (same _ _ _).trans (holds _ _ _ _)⟩
    · intro other source kept
      refine (changes.holds other source kept).trans ?_
      rw [sound.holds_iff member]
      simp only [Process.mem_withSlot, Prod.mk.injEq, Slot.mk.injEq]
      constructor
      · rintro ⟨number, ⟨rfl, rfl, rfl⟩ | ⟨slot, -⟩, named⟩
        · rcases names_addFile.mp named with ⟨-, rfl⟩ | old
          · exact .inl ⟨rfl, rfl, rfl⟩
          · obtain ⟨file, opened, -⟩ := old
            exact absurd (sound.numbered _ opened) (Nat.lt_irrefl _)
        · exact .inr ⟨number, slot, (names process member _ slot source).mp named⟩
      · rintro (⟨rfl, rfl, rfl⟩ | ⟨number, slot, named⟩)
        · exact ⟨_, .inl ⟨rfl, rfl, rfl⟩, names_addFile.mpr (.inl ⟨rfl, rfl⟩)⟩
        · refine ⟨number, .inr ⟨slot, ?_⟩, (names process member _ slot source).mpr named⟩
          rintro rfl
          exact not_mem_of_lookup free slot

/-- What a process gets with a pipe: two descriptors that were free, and a new number. -/
structure OpensPipe (before after : Kernel) (pid : Pid) (reading writing : Descriptor)
    (closeOnExec : Bool) : Prop where
  /-- The tables still fit together. -/
  sound : after.Sound
  /-- The number of the pipe is given out. -/
  numbers : before.nextNumber < after.nextNumber
  /-- There are two of them. -/
  apart : reading ≠ writing
  /-- The first held nothing. -/
  freeReading : ∀ source closeOnExec, ¬ before.Holds pid reading source closeOnExec
  /-- Nor did the second. -/
  freeWriting : ∀ source closeOnExec, ¬ before.Holds pid writing source closeOnExec
  /-- They are the only ones that change. -/
  changes : before.Changes after pid fun descriptor source closeOnExec' =>
    descriptor = reading ∧ source = .pipeReader before.nextNumber ∧ closeOnExec' = closeOnExec ∨
      descriptor = writing ∧ source = .pipeWriter before.nextNumber ∧ closeOnExec' = closeOnExec ∨
        before.Holds pid descriptor source closeOnExec'

/-- The number of a pipe is given out before its ends are opened. -/
theorem sound_number (sound : kernel.Sound) (pipes : List (Nat × Pipe)) :
    { kernel with pipes, nextNumber := kernel.nextNumber + 1 }.Sound :=
  ⟨sound.pids, fun process member =>
    (sound.fits process member).mono (Nat.le_refl _) (Nat.le_succ _), sound.files,
    fun entry opened => Nat.lt_succ_of_lt (sound.numbered entry opened),
    fun entry opened pipe same => Nat.lt_succ_of_lt (sound.ends entry opened pipe same),
    sound.named⟩

/-- A pipe is made with both ends on free descriptors, one after the other. -/
theorem opens_makePipe (sound : kernel.Sound) (running : kernel.Runs pid activity)
    (closeOnExec : Bool) :
    kernel.OpensPipe (kernel.makePipe pid closeOnExec).2 pid
      (kernel.makePipe pid closeOnExec).1.1 (kernel.makePipe pid closeOnExec).1.2
      closeOnExec := by
  have numbered := sound_number sound ((kernel.nextNumber, {}) :: kernel.pipes)
  have reads := opens_install numbered running
    ⟨.pipeReader kernel.nextNumber,
      utf8 "pipe:[" ++ Decimal.digits kernel.nextNumber ++ utf8 "]", { reads := true }, 0, false⟩
    (by
      rintro pipe ⟨⟩
      exact Nat.lt_succ_self _) closeOnExec
  have writes := opens_install reads.sound ((reads.changes.runs activity).mpr running)
    ⟨.pipeWriter kernel.nextNumber,
      utf8 "pipe:[" ++ Decimal.digits kernel.nextNumber ++ utf8 "]", { writes := true }, 0, false⟩
    (by
      rintro pipe ⟨⟩
      exact Nat.lt_of_lt_of_le (Nat.lt_succ_self _) reads.changes.numbers) closeOnExec
  have held := reads.changes.holds
  refine ⟨writes.sound, ?_, ?_, reads.free, ?_, ?_⟩
  · exact Nat.lt_of_lt_of_le (Nat.lt_succ_self _)
      (Nat.le_trans reads.changes.numbers writes.changes.numbers)
  · intro same
    exact writes.free _ _ ((held _ _ _).mpr (.inl ⟨same.symm, rfl, rfl⟩))
  · exact fun source kept before => writes.free source kept ((held _ _ _).mpr (.inr before))
  · have both := reads.changes.trans writes.changes
    refine ⟨Nat.le_of_succ_le both.numbers, both.pids, both.keeps, both.runs, ?_⟩
    intro descriptor source kept
    refine (both.holds descriptor source kept).trans ?_
    rw [held]
    exact or_left_comm

/-! ### Copying -/

/-- A slot for an open file is put at a descriptor that is free or has the same open file. -/
theorem copies_slot (sound : kernel.Sound) (member : process ∈ kernel.processes)
    (alive : process.isEnded = false) {original target : Descriptor} {slot : Slot}
    (there : (original, slot) ∈ process.slots)
    (settled : ∀ other, (target, other) ∈ process.slots → other.file = slot.file)
    (closeOnExec : Bool) :
    (kernel.modifyProcess process.pid (·.withSlot target ⟨slot.file, closeOnExec⟩)).Sound ∧
      kernel.Changes
        (kernel.modifyProcess process.pid (·.withSlot target ⟨slot.file, closeOnExec⟩)) process.pid
        fun descriptor source kept =>
          descriptor = target ∧ kept = closeOnExec ∧
              (∃ before, kernel.Holds process.pid original source before) ∨
            descriptor ≠ target ∧ kernel.Holds process.pid descriptor source kept := by
  have fits := sound.fits process member
  constructor
  · apply sound.modify (·.withSlot target ⟨slot.file, closeOnExec⟩) member rfl
      (fits.withSlot alive target _ (fits.numbered _ there)) _ nofun
    rintro ⟨key, other⟩ slotted
    refine .inr ?_
    by_cases here : key = target
    · subst here
      exact ⟨_, Process.mem_withSlot.mpr (.inl rfl), (settled other slotted).symm⟩
    · exact ⟨(key, other), Process.mem_withSlot.mpr (.inr ⟨slotted, here⟩), rfl⟩
  · refine (sound.changes_modify (·.withSlot target ⟨slot.file, closeOnExec⟩) member rfl rfl
      alive).congr fun descriptor source kept => ?_
    simp only [sound.holds_iff member, Process.mem_withSlot, Prod.mk.injEq, Slot.mk.injEq]
    constructor
    · rintro ⟨number, ⟨rfl, rfl, rfl⟩ | ⟨slotted, apart⟩, names⟩
      · exact .inl ⟨rfl, rfl, slot.closeOnExec, slot.file, there, names⟩
      · exact .inr ⟨apart, number, slotted, names⟩
    · rintro (⟨rfl, rfl, before, number, slotted, names⟩ | ⟨apart, number, slotted, names⟩)
      · cases eq_of_mem_keys fits.keys slotted there
        exact ⟨_, .inl ⟨rfl, rfl, rfl⟩, names⟩
      · exact ⟨number, .inr ⟨slotted, apart⟩, names⟩

/-- The process after it closed a descriptor. -/
theorem process_close (sound : kernel.Sound) (member : process ∈ kernel.processes)
    (descriptor : Descriptor) :
    ∃ later ∈ (kernel.closeDescriptor process.pid descriptor).2.processes,
      later.pid = process.pid ∧ later.isEnded = process.isEnded ∧
        ∀ entry, entry ∈ later.slots ↔ entry ∈ process.slots ∧ entry.1 ≠ descriptor := by
  simp only [closeDescriptor, sound.process?_eq member]
  split
  · next free =>
    refine ⟨process, member, rfl, rfl, fun entry => ⟨fun slotted => ⟨slotted, ?_⟩, And.left⟩⟩
    rintro rfl
    exact not_mem_of_lookup free slotted
  · refine ⟨process.withoutSlot descriptor, ?_, rfl, rfl, fun entry => Process.mem_withoutSlot⟩
    rw [processes_release]
    exact (mem_modifyProcess sound member).mpr (.inr rfl)

/-- Duplicating copies one descriptor to another. -/
theorem changes_duplicate (sound : kernel.Sound) (member : process ∈ kernel.processes)
    (alive : process.isEnded = false) (original target : Descriptor) (closeOnExec : Bool) :
    (kernel.performDuplicate process original target closeOnExec).2.Sound ∧
      ((process.slots.lookup original).isSome →
        kernel.Changes (kernel.performDuplicate process original target closeOnExec).2 process.pid
          fun descriptor source kept =>
            descriptor = target ∧ kept = closeOnExec ∧
                (∃ before, kernel.Holds process.pid original source before) ∨
              descriptor ≠ target ∧ kernel.Holds process.pid descriptor source kept) := by
  simp only [performDuplicate, Process.slot?]
  split
  · next free => exact ⟨sound, by simp [free]⟩
  next slot taken =>
  have there := mem_of_lookup taken
  by_cases same : original = target
  · subst same
    simp only [BEq.rfl, if_true]
    obtain ⟨after, changes⟩ := copies_slot sound member alive there
      (fun other slotted => by
        rw [eq_of_mem_keys (sound.fits process member).keys slotted there]) closeOnExec
    exact ⟨after, fun _ => changes⟩
  · have apart : (original == target) = false := by simpa using same
    simp only [apart, Bool.false_eq_true, if_false]
    -- The target is closed first, so nothing is there when the copy is made.
    have closed := changes_close sound ⟨process, member, rfl, alive, rfl⟩ target
    obtain ⟨later, second, samePid, sameEnd, slots⟩ := process_close sound member target
    obtain ⟨after, changes⟩ := copies_slot (sound_close sound _ _) second (sameEnd.trans alive)
      ((slots _).mpr ⟨there, same⟩)
      (fun other slotted => absurd rfl ((slots (target, other)).mp slotted).2) closeOnExec
    rw [samePid] at after changes
    refine ⟨after, fun _ => (closed.trans changes).congr fun descriptor source kept => ?_⟩
    simp only [closed.holds]
    constructor
    · rintro (⟨here, kept, before, -, held⟩ | ⟨apart, -, held⟩)
      · exact .inl ⟨here, kept, before, held⟩
      · exact .inr ⟨apart, held⟩
    · rintro (⟨here, kept, before, held⟩ | ⟨apart, held⟩)
      · exact .inl ⟨here, kept, before, same, held⟩
      · exact .inr ⟨apart, apart, held⟩

/-! ### Executing -/

theorem changes_closeAll (closing : List (Descriptor × Slot)) :
    ∀ {kernel : Kernel}, kernel.Sound → kernel.Runs pid activity →
      (closing.foldl (fun kernel slot => (kernel.closeDescriptor pid slot.1).2) kernel).Sound ∧
        kernel.Changes
          (closing.foldl (fun kernel slot => (kernel.closeDescriptor pid slot.1).2) kernel) pid
          fun descriptor source closeOnExec => descriptor ∉ closing.map (·.1) ∧
            kernel.Holds pid descriptor source closeOnExec := by
  induction closing with
  | nil =>
    intro kernel sound _
    exact ⟨sound, (Changes.refl kernel pid).congr fun _ _ _ => by simp⟩
  | cons slot closing ih =>
    intro kernel sound running
    have closed := changes_close sound running slot.1
    obtain ⟨after, changes⟩ := ih (sound_close sound pid slot.1) ((closed.runs _).mpr running)
    refine ⟨after, (closed.trans changes).congr fun descriptor source closeOnExec => ?_⟩
    simp only [closed.holds, List.map_cons, List.mem_cons, not_or, ← and_assoc]
    rw [and_comm (a := descriptor ∉ closing.map (·.1))]

/-- What survives an exec does so by its flag. -/
theorem changes_execute (sound : kernel.Sound) (member : process ∈ kernel.processes)
    (alive : process.isEnded = false) {path : Bytes} {arguments environment : List Bytes}
    {code : Code}
    (executed : kernel.execute process path arguments environment = .ok (code, after)) :
    after.Sound ∧ kernel.Changes after process.pid fun descriptor source closeOnExec =>
      closeOnExec = false ∧ kernel.Holds process.pid descriptor source closeOnExec := by
  simp only [execute, bind, Except.bind] at executed
  split at executed
  · cases executed
  split at executed
  · cases executed
  split at executed
  · cases executed
  cases executed
  have running : kernel.Runs process.pid process.activity := ⟨process, member, rfl, alive, rfl⟩
  obtain ⟨soundClosed, closed⟩ :=
    changes_closeAll (process.slots.filter (·.2.closeOnExec)) sound running
  -- A descriptor has one slot, so it is among those that are closed just if its flag is set.
  have survives (descriptor : Descriptor) (source : Source) (closeOnExec : Bool) :
      descriptor ∉ (process.slots.filter (·.2.closeOnExec)).map (·.1) ∧
          kernel.Holds process.pid descriptor source closeOnExec ↔
        closeOnExec = false ∧ kernel.Holds process.pid descriptor source closeOnExec := by
    rw [sound.holds_iff member]
    constructor
    · rintro ⟨kept, number, slot, names⟩
      refine ⟨?_, number, slot, names⟩
      cases flag : closeOnExec with
      | false => rfl
      | true =>
        exact absurd (List.mem_map.mpr ⟨_, List.mem_filter.mpr ⟨slot, flag⟩, rfl⟩) kept
    · rintro ⟨rfl, number, slot, names⟩
      refine ⟨fun closes => ?_, number, slot, names⟩
      obtain ⟨⟨_, other⟩, closing, rfl⟩ := List.mem_map.mp closes
      obtain ⟨slotted, flag⟩ := List.mem_filter.mp closing
      cases eq_of_mem_keys (sound.fits process member).keys slot slotted
      cases flag
  have flags (change : Process → Process) (same : ∀ process, (change process).pid = process.pid ∧
      (change process).slots = process.slots ∧ (change process).activity = process.activity) := by
    obtain ⟨soundAfter, changed⟩ :=
      soundClosed.changes_flags ((closed.runs _).mpr running) change same
    exact And.intro soundAfter ((closed.trans changed).congr fun _ _ _ =>
      (closed.holds _ _ _).trans (survives _ _ _))
  exact flags _ fun _ => ⟨rfl, rfl, rfl⟩

/-! ## New processes -/

/-- A process with a new number has what another has; whoever does not end keeps what it has. -/
structure Spawns (before after : Kernel) (parent : Pid) (code : Code) : Prop where
  /-- The tables still fit together. -/
  sound : after.Sound
  /-- No open file or pipe is new. -/
  numbers : after.nextNumber = before.nextNumber
  /-- The number of the child is given out. -/
  pids : after.nextPid = before.nextPid + 1
  /-- The others keep what they have. -/
  keeps : ∀ pid ≠ before.nextPid, before.Keeps after pid
  /-- The parent goes on. -/
  runs : ∀ activity, before.Runs parent activity → after.Runs parent activity
  /-- The child runs its code. -/
  starts : ∀ activity, after.Runs before.nextPid activity → activity = .running code
  /-- What the child holds. -/
  holds : ∀ descriptor source closeOnExec,
    after.Holds before.nextPid descriptor source closeOnExec ↔
      before.Holds parent descriptor source closeOnExec

/-- A child gets the slots of its parent.  Everybody who is there afterwards was there before, or is
the child. -/
theorem spawns (sound : kernel.Sound) (member : process ∈ kernel.processes) (code : Code)
    (ready : Nat) :
    kernel.Spawns (kernel.spawn process code ready).2 process.pid code := by
  have old {other : Process} (second : other ∈ kernel.processes) : other.pid ≠ kernel.nextPid :=
    Nat.ne_of_lt (sound.fits other second).born
  have known {other : Process} :
      other ∈ (kernel.spawn process code ready).2.processes ↔ other ∈ kernel.processes ∨
        other = { process with
          pid := kernel.nextPid, parent := process.pid, arrived := [], stopped := false, ready
          sleepEnd := none, activity := .running code } := by
    simp [spawn]
  refine ⟨⟨?_, ?_, sound.files, sound.numbered, sound.ends, ?_⟩, rfl, rfl, ?_, ?_, ?_, ?_⟩
  · simp only [spawn, List.map_append, List.map_cons, List.map_nil]
    refine List.nodup_append.mpr ⟨sound.pids, List.nodup_singleton _, ?_⟩
    intro pid there last new same
    obtain ⟨other, second, rfl⟩ := List.mem_map.mp there
    exact old second (same.trans (List.mem_singleton.mp new))
  · intro other there
    rcases known.mp there with second | rfl
    · exact (sound.fits other second).mono (Nat.le_succ _) (Nat.le_refl _)
    · obtain ⟨-, keys, -, numbered⟩ := sound.fits process member
      exact ⟨Nat.lt_succ_self _, keys, nofun, numbered⟩
  · intro entry opened
    rcases sound.named entry opened with none | ⟨other, second, named⟩
    · exact .inl none
    · exact .inr ⟨other, known.mpr (.inl second), named⟩
  · rintro pid apart activity ⟨other, there, rfl, running⟩
    rcases known.mp there with second | rfl
    · refine ⟨⟨other, second, rfl, running⟩, fun descriptor source closeOnExec => ?_⟩
      constructor
      · rintro ⟨same, there, pid, held⟩
        rcases known.mp there with before | rfl
        · exact ⟨same, before, pid, held⟩
        · exact absurd pid.symm apart
      · rintro ⟨same, before, pid, held⟩
        exact ⟨same, known.mpr (.inl before), pid, held⟩
    · exact absurd rfl apart
  · rintro activity ⟨other, second, running⟩
    exact ⟨other, known.mpr (.inl second), running⟩
  · rintro activity ⟨other, there, pid, -, rfl⟩
    rcases known.mp there with second | rfl
    · exact absurd pid (old second)
    · rfl
  · intro descriptor source closeOnExec
    rw [sound.holds_iff member]
    constructor
    · rintro ⟨other, there, pid, held⟩
      rcases known.mp there with second | rfl
      · exact absurd pid (old second)
      · exact held
    · intro held
      exact ⟨_, known.mpr (.inr rfl), rfl, held⟩

/-! ## Going on -/

/-- A process goes on with other code; whoever else does not end keeps what it has. -/
structure Resumes (before after : Kernel) (pid : Pid) (code : Code)
    (holds : Descriptor → Source → Bool → Prop) : Prop where
  /-- The tables still fit together. -/
  sound : after.Sound
  /-- Numbers are not given out twice. -/
  numbers : before.nextNumber ≤ after.nextNumber
  /-- No process is new. -/
  pids : after.nextPid = before.nextPid
  /-- The others keep what they have. -/
  keeps : ∀ other ≠ pid, before.Keeps after other
  /-- The process runs the code. -/
  runs : ∀ activity, after.Runs pid activity → activity = .running code
  /-- What it holds. -/
  holds : ∀ descriptor source closeOnExec,
    after.Holds pid descriptor source closeOnExec ↔ holds descriptor source closeOnExec

theorem resumes (sound : kernel.Sound) (pid : Pid) (code : Code) (cost : Nat) :
    kernel.Resumes (kernel.resume pid code cost) pid code (kernel.Holds pid) := by
  by_cases there : ∃ process ∈ kernel.processes, process.pid = pid
  · obtain ⟨process, member, rfl⟩ := there
    have fits := sound.fits process member
    have change := fun process : Process =>
      { process with activity := .running code, ready := kernel.now + cost }
    refine ⟨?_, Nat.le_refl _, rfl, ?_, ?_, ?_⟩
    · exact sound.modify _ member rfl ⟨fits.born, fits.keys, nofun, fits.numbered⟩
        (fun slot slotted => .inr ⟨slot, slotted, rfl⟩) nofun
    · exact fun other apart => sound.keeps_modify _ member rfl apart
    · intro activity running
      rcases (sound.runs_modify _ member rfl).mp running with ⟨apart, -⟩ | ⟨-, -, same⟩
      · exact absurd rfl apart
      · exact same.symm
    · intro descriptor source closeOnExec
      rw [resume, sound.holds_modify _ member rfl, sound.holds_iff member]
      simp
  · have same : (kernel.resume pid code cost).processes = kernel.processes := by
      simp only [resume, modifyProcess]
      conv_rhs => rw [← List.map_id kernel.processes]
      apply List.map_congr_left
      intro process member
      rw [if_neg, id]
      rw [beq_iff_eq]
      exact fun here => there ⟨process, member, here⟩
    obtain ⟨sound, numbers, pids, keeps⟩ := sound.quiet_of_same same rfl rfl rfl
    refine ⟨sound, Nat.le_of_eq numbers.symm, pids, fun other _ => keeps other, ?_, ?_⟩
    · rintro activity ⟨process, member, here, -⟩
      exact absurd ⟨process, same ▸ member, here⟩ there
    · intro descriptor source closeOnExec
      simp only [Holds, same]
      exact Iff.rfl

theorem Changes.resumes {before : Kernel} {code : Code} {holds : Descriptor → Source → Bool → Prop}
    (changes : before.Changes kernel pid holds)
    (resumed : kernel.Resumes after pid code (kernel.Holds pid)) :
    before.Resumes after pid code holds :=
  ⟨resumed.sound, Nat.le_trans changes.numbers resumed.numbers, resumed.pids.trans changes.pids,
    fun other apart => (changes.keeps other apart).trans (resumed.keeps other apart), resumed.runs,
    fun _ _ _ => (resumed.holds _ _ _).trans (changes.holds _ _ _)⟩

end Kernel

end Host

end CueFront
