import CueFront.Host.Schedule
import Mathlib.Data.List.Nodup

/-!
# Descriptors of the host

What a process holds is read off two tables: its slots name open files, and an open file has a
source.  `Kernel.Holds` joins the two.  `Kernel.Sound` says that the tables fit together:
numbers are given out once, a process that has ended holds nothing, and every open file is named
by a slot, so that a pipe has a writer only while some process holds its writing end
(`SoundBut.open_iff`).

Then comes one lemma for each thing that happens to the tables: `Kernel.Keeps` says of one
process that it either ends or has the descriptors and the program that it had, `Kernel.Quiet`
says so of all, and `Kernel.Changes` says exactly what one process holds afterwards.
-/

namespace CueFront

namespace Host

/-- The pipe that a source is an end of. -/
def Source.pipe? : Source → Option Nat
  | .pipeReader pipe | .pipeWriter pipe => some pipe
  | _ => none

section Lookup

variable {α : Type} {key : Nat} {value : α} {entries : List (Nat × α)}

theorem mem_of_lookup (found : entries.lookup key = some value) : (key, value) ∈ entries := by
  obtain ⟨before, after, rfl, -⟩ := List.lookup_eq_some_iff.mp found
  simp

theorem not_mem_of_lookup (missing : entries.lookup key = none) : (key, value) ∉ entries := by
  intro member
  simpa using List.lookup_eq_none_iff.mp missing _ member

theorem eq_of_mem_keys {other : α} (keys : (entries.map (·.1)).Nodup)
    (first : (key, value) ∈ entries) (second : (key, other) ∈ entries) : value = other := by
  have same := List.inj_on_of_nodup_map keys first second rfl
  exact congrArg Prod.snd same

theorem lookup_of_mem (keys : (entries.map (·.1)).Nodup) (member : (key, value) ∈ entries) :
    entries.lookup key = some value := by
  cases found : entries.lookup key with
  | none => exact absurd member (not_mem_of_lookup found)
  | some other => rw [eq_of_mem_keys keys member (mem_of_lookup found)]

end Lookup

/-! ## The lowest free descriptor -/

namespace Process

variable {process : Process} {descriptor : Descriptor}

/-- The search for a free descriptor finds one, since it can be tried as often as there are slots in
its way: if a slot is taken, fewer are left above it. -/
theorem lookup_go (tries : Nat) :
    ∀ descriptor, (process.slots.filter (descriptor ≤ ·.1)).length ≤ tries →
      process.slots.lookup (freeFrom.go process tries descriptor) = none := by
  induction tries with
  | zero =>
    intro descriptor few
    rw [freeFrom.go, List.lookup_eq_none_iff]
    intro slot member
    have none := List.length_eq_zero_iff.mp (Nat.le_zero.mp few)
    have low := List.filter_eq_nil_iff.mp none slot member
    have below : slot.1 < descriptor := by simpa using low
    exact bne_iff_ne.mpr (Nat.ne_of_gt below)
  | succ tries ih =>
    intro descriptor few
    simp only [freeFrom.go]
    split
    · next taken =>
      apply ih
      obtain ⟨slot, found⟩ := Option.isSome_iff_exists.mp taken
      have member := mem_of_lookup found
      have fewer : (process.slots.filter (descriptor + 1 ≤ ·.1)).length <
          (process.slots.filter (descriptor ≤ ·.1)).length := by
        have smaller : process.slots.filter (descriptor + 1 ≤ ·.1) =
            (process.slots.filter (descriptor ≤ ·.1)).filter (descriptor + 1 ≤ ·.1) := by
          rw [List.filter_filter]
          congr 1
          funext entry
          rw [Bool.eq_iff_iff]
          simp only [Bool.and_eq_true, decide_eq_true_eq]
          exact ⟨fun above => ⟨above, Nat.le_of_succ_le above⟩, And.left⟩
        rw [smaller]
        apply List.length_filter_lt_length_iff_exists.mpr
        exact ⟨(descriptor, slot), by simp [member], by simp⟩
      exact Nat.le_of_lt_succ (Nat.lt_of_lt_of_le fewer few)
    · next free => exact Option.not_isSome_iff_eq_none.mp free

/-- The lowest free descriptor is free. -/
theorem lookup_freeFrom (process : Process) (least : Descriptor) :
    process.slots.lookup (process.freeFrom least) = none :=
  lookup_go _ least (List.length_filter_le _ _)

@[simp] theorem mem_withSlot {slot : Slot} {entry : Descriptor × Slot} :
    entry ∈ (process.withSlot descriptor slot).slots ↔
      entry = (descriptor, slot) ∨ entry ∈ process.slots ∧ entry.1 ≠ descriptor := by
  simp [withSlot]

@[simp] theorem mem_withoutSlot {entry : Descriptor × Slot} :
    entry ∈ (process.withoutSlot descriptor).slots ↔
      entry ∈ process.slots ∧ entry.1 ≠ descriptor := by
  simp [withoutSlot]

end Process

/-! ## Tables that fit together -/

/-- A process fits into the tables of the host. -/
structure Process.Fits (process : Process) (kernel : Kernel) : Prop where
  /-- Its number was given out. -/
  born : process.pid < kernel.nextPid
  /-- No descriptor has two slots. -/
  keys : (process.slots.map (·.1)).Nodup
  /-- It holds nothing once it has ended. -/
  bare : process.isEnded = true → process.slots = []
  /-- The numbers of its open files were given out. -/
  numbered : ∀ slot ∈ process.slots, slot.2.file < kernel.nextNumber

namespace Process.Fits

variable {process : Process} {kernel after : Kernel}

theorem mono (fits : process.Fits kernel) (pids : kernel.nextPid ≤ after.nextPid)
    (numbers : kernel.nextNumber ≤ after.nextNumber) :
    process.Fits after :=
  ⟨Nat.lt_of_lt_of_le fits.born pids, fits.keys, fits.bare,
    fun slot slotted => Nat.lt_of_lt_of_le (fits.numbered slot slotted) numbers⟩

theorem withSlot (fits : process.Fits kernel) (alive : process.isEnded = false)
    (descriptor : Descriptor) (slot : Slot) (numbered : slot.file < kernel.nextNumber) :
    (process.withSlot descriptor slot).Fits kernel := by
  refine ⟨fits.born, ?_, ?_, ?_⟩
  · have apart : descriptor ∉ (process.slots.filter (·.1 != descriptor)).map (·.1) := by simp
    exact List.nodup_cons.mpr ⟨apart, (List.filter_sublist.map _).nodup fits.keys⟩
  · intro ended
    rw [show process.isEnded = true from ended] at alive
    cases alive
  · intro entry slotted
    rcases mem_withSlot.mp slotted with rfl | ⟨before, -⟩
    · exact numbered
    · exact fits.numbered entry before

theorem withoutSlot (fits : process.Fits kernel) (descriptor : Descriptor) :
    (process.withoutSlot descriptor).Fits kernel := by
  refine ⟨fits.born, (List.filter_sublist.map _).nodup fits.keys, ?_, ?_⟩
  · intro ended
    simp [Process.withoutSlot, fits.bare ended]
  · exact fun entry slotted => fits.numbered entry (mem_withoutSlot.mp slotted).1

end Process.Fits

namespace Kernel

/-- An open file has a source. -/
def Names (kernel : Kernel) (number : Nat) (source : Source) : Prop :=
  ∃ file, (number, file) ∈ kernel.openFiles ∧ file.source = source

/-- Some slot names an open file. -/
def Named (kernel : Kernel) (number : Nat) : Prop :=
  ∃ process ∈ kernel.processes, ∃ slot ∈ process.slots, slot.2.file = number

/-- A process has not ended, and this is what it does. -/
def Runs (kernel : Kernel) (pid : Pid) (activity : Activity) : Prop :=
  ∃ process ∈ kernel.processes,
    process.pid = pid ∧ process.isEnded = false ∧ process.activity = activity

/-- A process holds a source at a descriptor. -/
def Holds (kernel : Kernel) (pid : Pid) (descriptor : Descriptor) (source : Source)
    (closeOnExec : Bool) : Prop :=
  ∃ process ∈ kernel.processes, process.pid = pid ∧
    ∃ number, (descriptor, ⟨number, closeOnExec⟩) ∈ process.slots ∧ kernel.Names number source

/-- The tables fit together, but for open files that are about to be released. -/
structure SoundBut (kernel : Kernel) (loose : List Nat) : Prop where
  /-- No number belongs to two processes. -/
  pids : (kernel.processes.map (·.pid)).Nodup
  /-- Every process fits. -/
  fits : ∀ process ∈ kernel.processes, process.Fits kernel
  /-- No number belongs to two open files. -/
  files : (kernel.openFiles.map (·.1)).Nodup
  /-- The numbers of the open files were given out. -/
  numbered : ∀ entry ∈ kernel.openFiles, entry.1 < kernel.nextNumber
  /-- So were the numbers of the pipes. -/
  ends : ∀ entry ∈ kernel.openFiles, ∀ pipe, entry.2.source.pipe? = some pipe →
    pipe < kernel.nextNumber
  /-- Every open file is named by a slot. -/
  named : ∀ entry ∈ kernel.openFiles, entry.1 ∈ loose ∨ kernel.Named entry.1

/-- The tables fit together. -/
abbrev Sound (kernel : Kernel) : Prop := kernel.SoundBut []

variable {kernel after : Kernel} {process other : Process} {pid : Pid} {number : Nat}
  {descriptor : Descriptor} {source : Source} {closeOnExec : Bool} {activity : Activity}
  {loose : List Nat}

theorem mem_of_process? (found : kernel.process? pid = some process) :
    process ∈ kernel.processes ∧ process.pid = pid := by
  have fits := List.find?_some found
  exact ⟨List.mem_of_find?_eq_some found, eq_of_beq fits⟩

theorem mem_of_fileOf? {file : OpenFile}
    (found : kernel.fileOf? process descriptor = some (number, file)) :
    ∃ closeOnExec, (descriptor, ⟨number, closeOnExec⟩) ∈ process.slots ∧
      (number, file) ∈ kernel.openFiles := by
  simp only [fileOf?, Option.bind_eq_bind, Option.bind_eq_some_iff, Option.pure_def,
    Option.some.injEq, Prod.mk.injEq] at found
  obtain ⟨slot, taken, file, opened, rfl, rfl⟩ := found
  exact ⟨slot.closeOnExec, mem_of_lookup taken, mem_of_lookup opened⟩

namespace SoundBut

theorem unique (sound : kernel.SoundBut loose) (first : process ∈ kernel.processes)
    (second : other ∈ kernel.processes) (same : process.pid = other.pid) : process = other :=
  List.inj_on_of_nodup_map sound.pids first second same

theorem process?_eq (sound : kernel.SoundBut loose) (member : process ∈ kernel.processes) :
    kernel.process? process.pid = some process := by
  cases found : kernel.process? process.pid with
  | none => simpa using List.find?_eq_none.mp found process member
  | some other =>
    obtain ⟨second, same⟩ := mem_of_process? found
    rw [sound.unique second member same]

/-- What a process holds can be read off its slots. -/
theorem holds_iff (sound : kernel.SoundBut loose) (member : process ∈ kernel.processes) :
    kernel.Holds process.pid descriptor source closeOnExec ↔
      ∃ number, (descriptor, ⟨number, closeOnExec⟩) ∈ process.slots ∧
        kernel.Names number source := by
  constructor
  · rintro ⟨other, second, same, held⟩
    rwa [← sound.unique second member same]
  · intro held
    exact ⟨process, member, rfl, held⟩

theorem names_unique (sound : kernel.SoundBut loose) {first second : Source}
    (one : kernel.Names number first) (two : kernel.Names number second) : first = second := by
  obtain ⟨file, member, rfl⟩ := one
  obtain ⟨file', member', rfl⟩ := two
  rw [eq_of_mem_keys sound.files member member']

/-- A descriptor holds one thing. -/
theorem holds_unique (sound : kernel.SoundBut loose) {first second : Source} {kept kept' : Bool}
    (one : kernel.Holds pid descriptor first kept)
    (two : kernel.Holds pid descriptor second kept') : first = second ∧ kept = kept' := by
  obtain ⟨process, member, rfl, number, slot, names⟩ := one
  obtain ⟨number', slot', names'⟩ := (sound.holds_iff member).mp two
  have same := eq_of_mem_keys (sound.fits process member).keys slot slot'
  cases same
  exact ⟨sound.names_unique names names', rfl⟩

/-- Who holds something has not ended. -/
theorem runs_of_holds (sound : kernel.SoundBut loose)
    (held : kernel.Holds pid descriptor source closeOnExec) :
    ∃ activity, kernel.Runs pid activity := by
  obtain ⟨process, member, rfl, number, slot, -⟩ := held
  refine ⟨process.activity, process, member, rfl, ?_, rfl⟩
  cases ended : process.isEnded with
  | false => rfl
  | true =>
    rw [(sound.fits process member).bare ended] at slot
    cases slot

/-- Only a process that was made holds anything. -/
theorem born_of_holds (sound : kernel.SoundBut loose)
    (held : kernel.Holds pid descriptor source closeOnExec) : pid < kernel.nextPid := by
  obtain ⟨process, member, rfl, -⟩ := held
  exact (sound.fits process member).born

/-- Only a pipe that was made has ends. -/
theorem pipe_of_holds (sound : kernel.SoundBut loose)
    (held : kernel.Holds pid descriptor source closeOnExec) {pipe : Nat}
    (same : source.pipe? = some pipe) : pipe < kernel.nextNumber := by
  obtain ⟨process, member, rfl, number, slot, file, opened, rfl⟩ := held
  exact sound.ends _ opened pipe same

end SoundBut

/-- What is open is held. -/
theorem SoundBut.open_iff (sound : kernel.Sound) (source : Source) :
    kernel.openFiles.any (·.2.source == source) = true ↔
      ∃ pid descriptor closeOnExec, kernel.Holds pid descriptor source closeOnExec := by
  simp only [List.any_eq_true, beq_iff_eq]
  constructor
  · rintro ⟨⟨number, file⟩, opened, same⟩
    rcases sound.named _ opened with none | ⟨process, member, ⟨descriptor, slot⟩, slotted, rfl⟩
    · cases none
    · exact ⟨process.pid, descriptor, slot.closeOnExec, process, member, rfl, slot.file, slotted,
        file, opened, same⟩
  · rintro ⟨pid, descriptor, closeOnExec, process, member, rfl, number, slot, file, opened, same⟩
    exact ⟨(number, file), opened, same⟩

/-! ## Changing one process -/

/-- A changed process takes the place of the old one, and the others stay. -/
theorem mem_modifyProcess (sound : kernel.SoundBut loose) {change : Process → Process}
    (member : process ∈ kernel.processes) :
    other ∈ (kernel.modifyProcess process.pid change).processes ↔
      other ∈ kernel.processes ∧ other.pid ≠ process.pid ∨ other = change process := by
  simp only [modifyProcess, List.mem_map, beq_iff_eq]
  constructor
  · rintro ⟨before, second, rfl⟩
    by_cases same : before.pid = process.pid
    · rw [sound.unique second member same, if_pos rfl]
      exact .inr rfl
    · rw [if_neg same]
      exact .inl ⟨second, same⟩
  · rintro (⟨second, apart⟩ | rfl)
    · exact ⟨other, second, if_neg apart⟩
    · exact ⟨process, member, if_pos rfl⟩

theorem pids_modifyProcess {change : Process → Process}
    (same : ∀ other ∈ kernel.processes, other.pid = pid → (change other).pid = pid) :
    (kernel.modifyProcess pid change).processes.map (·.pid) = kernel.processes.map (·.pid) := by
  simp only [modifyProcess, List.map_map]
  apply List.map_congr_left
  intro other second
  simp only [Function.comp_apply, beq_iff_eq]
  split
  · next here => rw [same other second here, here]
  · rfl

/-- A process may be changed if it still fits; the files whose slots it gives up are loose. -/
theorem SoundBut.modify (sound : kernel.SoundBut loose) (change : Process → Process)
    {later : List Nat} (member : process ∈ kernel.processes)
    (same : (change process).pid = process.pid) (fits : (change process).Fits kernel)
    (kept : ∀ slot ∈ process.slots, slot.2.file ∈ later ∨
      ∃ slot' ∈ (change process).slots, slot'.2.file = slot.2.file)
    (settled : ∀ number ∈ loose, number ∈ later ∨
      ∃ slot' ∈ (change process).slots, slot'.2.file = number) :
    (kernel.modifyProcess process.pid change).SoundBut later := by
  have changed : change process ∈ (kernel.modifyProcess process.pid change).processes :=
    (mem_modifyProcess sound member).mpr (.inr rfl)
  refine ⟨?_, ?_, sound.files, sound.numbered, sound.ends, ?_⟩
  · rw [pids_modifyProcess]
    · exact sound.pids
    · intro other second here
      rw [sound.unique second member here, same]
  · intro other second
    rcases (mem_modifyProcess sound member).mp second with ⟨before, -⟩ | rfl
    · exact (sound.fits other before).mono (Nat.le_refl _) (Nat.le_refl _)
    · exact fits.mono (Nat.le_refl _) (Nat.le_refl _)
  · intro entry opened
    rcases sound.named entry opened with here | ⟨other, second, slot, slotted, names⟩
    · rcases settled _ here with later | ⟨slot', slotted', names⟩
      · exact .inl later
      · exact .inr ⟨_, changed, slot', slotted', names⟩
    · by_cases here : other.pid = process.pid
      · cases sound.unique second member here
        rcases kept slot slotted with later | ⟨slot', slotted', names'⟩
        · rw [← names]
          exact .inl later
        · exact .inr ⟨_, changed, slot', slotted', names'.trans names⟩
      · exact .inr ⟨other, (mem_modifyProcess sound member).mpr (.inl ⟨second, here⟩), slot,
          slotted, names⟩

/-- Changing one process changes what that process holds and nothing else. -/
theorem SoundBut.holds_modify (sound : kernel.SoundBut loose) (change : Process → Process)
    (member : process ∈ kernel.processes) (same : (change process).pid = process.pid) :
    (kernel.modifyProcess process.pid change).Holds pid descriptor source closeOnExec ↔
      pid ≠ process.pid ∧ kernel.Holds pid descriptor source closeOnExec ∨
      pid = process.pid ∧ ∃ number, (descriptor, ⟨number, closeOnExec⟩) ∈ (change process).slots ∧
        kernel.Names number source := by
  constructor
  · rintro ⟨other, second, rfl, held⟩
    rcases (mem_modifyProcess sound member).mp second with ⟨before, apart⟩ | rfl
    · exact .inl ⟨apart, other, before, rfl, held⟩
    · exact .inr ⟨same, held⟩
  · rintro (⟨apart, other, second, rfl, held⟩ | ⟨rfl, held⟩)
    · exact ⟨other, (mem_modifyProcess sound member).mpr (.inl ⟨second, apart⟩), rfl, held⟩
    · exact ⟨_, (mem_modifyProcess sound member).mpr (.inr rfl), same, held⟩

theorem SoundBut.runs_modify (sound : kernel.SoundBut loose) (change : Process → Process)
    (member : process ∈ kernel.processes) (same : (change process).pid = process.pid) :
    (kernel.modifyProcess process.pid change).Runs pid activity ↔
      pid ≠ process.pid ∧ kernel.Runs pid activity ∨
      pid = process.pid ∧ (change process).isEnded = false ∧
        (change process).activity = activity := by
  constructor
  · rintro ⟨other, second, rfl, running⟩
    rcases (mem_modifyProcess sound member).mp second with ⟨before, apart⟩ | rfl
    · exact .inl ⟨apart, other, before, rfl, running⟩
    · exact .inr ⟨same, running⟩
  · rintro (⟨apart, other, second, rfl, running⟩ | ⟨rfl, running⟩)
    · exact ⟨other, (mem_modifyProcess sound member).mpr (.inl ⟨second, apart⟩), rfl, running⟩
    · exact ⟨_, (mem_modifyProcess sound member).mpr (.inr rfl), same, running⟩

/-- Putting a changed process in its own place changes it. -/
theorem SoundBut.putProcess_eq (sound : kernel.SoundBut loose) (change : Process → Process)
    (member : process ∈ kernel.processes) (same : (change process).pid = process.pid) :
    kernel.putProcess (change process) = kernel.modifyProcess process.pid change := by
  simp only [putProcess, modifyProcess, same]
  congr 1
  apply List.map_congr_left
  intro other second
  split
  · next here => rw [sound.unique second member (eq_of_beq here)]
  · rfl

/-! ## Releasing open files -/

@[simp] theorem processes_release (kernel : Kernel) (number : Nat) :
    (kernel.release number).processes = kernel.processes := by
  simp only [release]
  repeat' split
  all_goals rfl

@[simp] theorem nextNumber_release (kernel : Kernel) (number : Nat) :
    (kernel.release number).nextNumber = kernel.nextNumber := by
  simp only [release]
  repeat' split
  all_goals rfl

@[simp] theorem nextPid_release (kernel : Kernel) (number : Nat) :
    (kernel.release number).nextPid = kernel.nextPid := by
  simp only [release]
  repeat' split
  all_goals rfl

/-- A file is dropped when nothing names it any more. -/
theorem openFiles_release (kernel : Kernel) (number : Nat) :
    kernel.Named number ∧ (kernel.release number).openFiles = kernel.openFiles ∨
      ¬ kernel.Named number ∧
        (kernel.release number).openFiles = kernel.openFiles.filter (·.1 != number) := by
  have names : (kernel.processes.any fun process => process.slots.any (·.2.file == number)) = true ↔
      kernel.Named number := by simp [Named]
  simp only [release]
  split
  · next used => exact .inl ⟨names.mp used, rfl⟩
  · next unused =>
    refine .inr ⟨fun named => unused (names.mpr named), ?_⟩
    cases found : kernel.openFile? number with
    | none =>
      have absent : ∀ entry ∈ kernel.openFiles, (entry.1 != number) = true := by
        intro entry opened
        rw [bne_comm]
        exact List.lookup_eq_none_iff.mp found entry opened
      exact (List.filter_eq_self.mpr absent).symm
    | some file =>
      simp only
      repeat' split
      all_goals rfl

theorem mem_release {entry : Nat × OpenFile} :
    entry ∈ (kernel.release number).openFiles ↔
      entry ∈ kernel.openFiles ∧ (kernel.Named number ∨ entry.1 ≠ number) := by
  rcases openFiles_release kernel number with ⟨named, same⟩ | ⟨unnamed, same⟩
  · simp [same, named]
  · simp [same, unnamed]

/-- Releasing a file settles it. -/
theorem SoundBut.release (sound : kernel.SoundBut (number :: loose)) :
    (kernel.release number).SoundBut loose := by
  have named (other : Nat) : (kernel.release number).Named other ↔ kernel.Named other := by
    simp [Named]
  refine ⟨by simpa using sound.pids, ?_, ?_, ?_, ?_, ?_⟩
  · intro process member
    rw [processes_release] at member
    exact (sound.fits process member).mono (by simp) (by simp)
  · have fewer : (kernel.release number).openFiles.Sublist kernel.openFiles := by
      rcases openFiles_release kernel number with ⟨-, same⟩ | ⟨-, same⟩
      · rw [same]
      · rw [same]
        exact List.filter_sublist
    exact (fewer.map _).nodup sound.files
  · intro entry opened
    rw [nextNumber_release]
    exact sound.numbered entry (mem_release.mp opened).1
  · intro entry opened
    rw [nextNumber_release]
    exact sound.ends entry (mem_release.mp opened).1
  · intro entry opened
    obtain ⟨before, kept⟩ := mem_release.mp opened
    rw [named]
    rcases sound.named entry before with here | there
    · rcases List.mem_cons.mp here with same | later
      · rw [same] at kept ⊢
        exact .inr (kept.resolve_right (absurd rfl))
      · exact .inl later
    · exact .inr there

/-- Only what nobody holds is released. -/
theorem holds_release :
    (kernel.release number).Holds pid descriptor source closeOnExec ↔
      kernel.Holds pid descriptor source closeOnExec := by
  simp only [Holds, processes_release]
  constructor
  · rintro ⟨process, member, same, named, slot, file, opened, rfl⟩
    exact ⟨process, member, same, named, slot, file, (mem_release.mp opened).1, rfl⟩
  · rintro ⟨process, member, same, named, slot, file, opened, rfl⟩
    refine ⟨process, member, same, named, slot, file, mem_release.mpr ⟨opened, ?_⟩, rfl⟩
    by_cases here : named = number
    · exact .inl ⟨process, member, _, slot, here⟩
    · exact .inr here

theorem runs_release : (kernel.release number).Runs pid activity ↔ kernel.Runs pid activity := by
  simp only [Runs, processes_release]

/-! ## What a step leaves alone -/

/-- A process that runs afterwards did the same before, and has what it had. -/
def Keeps (before after : Kernel) (pid : Pid) : Prop :=
  ∀ activity, after.Runs pid activity → before.Runs pid activity ∧
    ∀ descriptor source closeOnExec, after.Holds pid descriptor source closeOnExec ↔
      before.Holds pid descriptor source closeOnExec

/-- Whoever does not end keeps what it has, and nothing is new. -/
structure Quiet (before after : Kernel) : Prop where
  /-- The tables still fit together. -/
  sound : after.Sound
  /-- No open file or pipe is new. -/
  numbers : after.nextNumber = before.nextNumber
  /-- No process is new. -/
  pids : after.nextPid = before.nextPid
  /-- Every process keeps what it has. -/
  keeps : ∀ pid, before.Keeps after pid

/-- One process holds something else afterwards; whoever else does not end keeps what it has. -/
structure Changes (before after : Kernel) (pid : Pid)
    (holds : Descriptor → Source → Bool → Prop) : Prop where
  /-- Numbers are not given out twice. -/
  numbers : before.nextNumber ≤ after.nextNumber
  /-- No process is new. -/
  pids : after.nextPid = before.nextPid
  /-- The others keep what they have. -/
  keeps : ∀ other ≠ pid, before.Keeps after other
  /-- The process goes on. -/
  runs : ∀ activity, after.Runs pid activity ↔ before.Runs pid activity
  /-- What it holds. -/
  holds : ∀ descriptor source closeOnExec,
    after.Holds pid descriptor source closeOnExec ↔ holds descriptor source closeOnExec

theorem Keeps.refl (kernel : Kernel) (pid : Pid) : kernel.Keeps kernel pid :=
  fun _ running => ⟨running, fun _ _ _ => Iff.rfl⟩

theorem Keeps.trans {before : Kernel} (first : before.Keeps kernel pid)
    (second : kernel.Keeps after pid) : before.Keeps after pid := by
  intro activity running
  obtain ⟨running, held⟩ := second activity running
  obtain ⟨running, held'⟩ := first activity running
  exact ⟨running, fun descriptor source closeOnExec =>
    (held descriptor source closeOnExec).trans (held' descriptor source closeOnExec)⟩

theorem Quiet.refl (sound : kernel.Sound) : kernel.Quiet kernel :=
  ⟨sound, rfl, rfl, Keeps.refl kernel⟩

theorem Quiet.trans {before : Kernel} (first : before.Quiet kernel) (second : kernel.Quiet after) :
    before.Quiet after :=
  ⟨second.sound, second.numbers.trans first.numbers, second.pids.trans first.pids,
    fun pid => (first.keeps pid).trans (second.keeps pid)⟩

theorem Changes.refl (kernel : Kernel) (pid : Pid) :
    kernel.Changes kernel pid (kernel.Holds pid) :=
  ⟨Nat.le_refl _, rfl, fun other _ => Keeps.refl kernel other, fun _ => Iff.rfl,
    fun _ _ _ => Iff.rfl⟩

theorem Changes.trans {before : Kernel} {holds later : Descriptor → Source → Bool → Prop}
    (first : before.Changes kernel pid holds) (second : kernel.Changes after pid later) :
    before.Changes after pid later :=
  ⟨Nat.le_trans first.numbers second.numbers, second.pids.trans first.pids,
    fun other apart => (first.keeps other apart).trans (second.keeps other apart),
    fun activity => (second.runs activity).trans (first.runs activity), second.holds⟩

theorem Changes.congr {holds later : Descriptor → Source → Bool → Prop}
    (changes : kernel.Changes after pid holds)
    (same : ∀ descriptor source closeOnExec,
      holds descriptor source closeOnExec ↔ later descriptor source closeOnExec) :
    kernel.Changes after pid later :=
  { changes with
    holds := fun descriptor source closeOnExec =>
      (changes.holds descriptor source closeOnExec).trans
        (same descriptor source closeOnExec) }

theorem isEnded_congr (same : process.activity = other.activity) :
    process.isEnded = other.isEnded := by
  simp only [Process.isEnded, same]

/-- Only the flags of processes change, or some that have ended are forgotten. -/
theorem SoundBut.quiet_of_processes (sound : kernel.Sound) {processes : List Process}
    (pids : (processes.map (·.pid)).Sublist (kernel.processes.map (·.pid)))
    (known : ∀ process ∈ processes, ∃ other ∈ kernel.processes, other.pid = process.pid ∧
      other.slots = process.slots ∧ other.activity = process.activity)
    (kept : ∀ other ∈ kernel.processes, other.isEnded = false → ∃ process ∈ processes,
      process.pid = other.pid ∧ process.slots = other.slots) :
    kernel.Quiet { kernel with processes } := by
  have fits : ∀ process ∈ processes, process.Fits { kernel with processes } := by
    intro process member
    obtain ⟨other, second, pid, slots, activity⟩ := known process member
    obtain ⟨born, keys, bare, numbered⟩ := sound.fits other second
    rw [pid] at born
    rw [slots] at keys bare numbered
    rw [isEnded_congr activity] at bare
    exact ⟨born, keys, bare, numbered⟩
  refine ⟨⟨pids.nodup sound.pids, fits, sound.files, sound.numbered, sound.ends, ?_⟩, rfl, rfl, ?_⟩
  · intro entry opened
    rcases sound.named entry opened with none | ⟨other, second, slot, slotted, names⟩
    · exact .inl none
    · cases ended : other.isEnded with
      | true =>
        rw [(sound.fits other second).bare ended] at slotted
        cases slotted
      | false =>
        obtain ⟨process, member, -, slots⟩ := kept other second ended
        rw [← slots] at slotted
        exact .inr ⟨process, member, slot, slotted, names⟩
  · rintro pid activity ⟨process, member, rfl, running, rfl⟩
    obtain ⟨other, second, pid, slots, activity⟩ := known process member
    refine ⟨⟨other, second, pid, (isEnded_congr activity).trans running, activity⟩, ?_⟩
    intro descriptor source closeOnExec
    rw [← pid, sound.holds_iff second]
    constructor
    · rintro ⟨process', member', same, held⟩
      obtain ⟨other', second', pid', slots', -⟩ := known process' member'
      rw [← slots', sound.unique second' second (pid'.trans same)] at held
      exact held
    · intro held
      rw [slots] at held
      exact ⟨process, member, pid.symm, held⟩

/-- Only the flags of a process change. -/
theorem SoundBut.quiet_modify (sound : kernel.Sound) {change : Process → Process}
    (same : ∀ process ∈ kernel.processes, process.pid = pid →
      (change process).pid = process.pid ∧ (change process).slots = process.slots ∧
        (change process).activity = process.activity) :
    kernel.Quiet (kernel.modifyProcess pid change) := by
  apply sound.quiet_of_processes
  · have pids : (kernel.modifyProcess pid change).processes.map (·.pid) =
        kernel.processes.map (·.pid) :=
      pids_modifyProcess fun other second here => (same other second here).1.trans here
    exact pids ▸ List.Sublist.refl _
  · intro process member
    obtain ⟨other, second, rfl⟩ := List.mem_map.mp member
    refine ⟨other, second, ?_⟩
    split
    · next here =>
      obtain ⟨pid, slots, activity⟩ := same other second (eq_of_beq here)
      exact ⟨pid.symm, slots.symm, activity.symm⟩
    · exact ⟨rfl, rfl, rfl⟩
  · intro other second _
    refine ⟨_, List.mem_map_of_mem second, ?_⟩
    split
    · next here =>
      obtain ⟨pid, slots, -⟩ := same other second (eq_of_beq here)
      exact ⟨pid, slots⟩
    · exact ⟨rfl, rfl⟩

/-- Only the flags of a process that was looked up change. -/
theorem SoundBut.quiet_put (sound : kernel.Sound) (member : process ∈ kernel.processes)
    (pid : other.pid = process.pid) (slots : other.slots = process.slots)
    (activity : other.activity = process.activity) : kernel.Quiet (kernel.putProcess other) := by
  apply sound.quiet_modify
  intro before second same
  cases sound.unique second member (same.trans pid)
  exact ⟨pid, slots, activity⟩

/-- The tables do not change. -/
theorem SoundBut.quiet_of_same (sound : kernel.Sound)
    (processes : after.processes = kernel.processes)
    (openFiles : after.openFiles = kernel.openFiles)
    (number : after.nextNumber = kernel.nextNumber) (pid : after.nextPid = kernel.nextPid) :
    kernel.Quiet after := by
  obtain ⟨store, pipes, _, _, _, _, now, loader⟩ := after
  subst processes openFiles number pid
  exact ⟨⟨sound.pids, fun process member => (sound.fits process member).mono (Nat.le_refl _)
    (Nat.le_refl _), sound.files, sound.numbered, sound.ends, sound.named⟩, rfl, rfl,
    fun pid => Keeps.refl kernel pid⟩

end Kernel

end Host

end CueFront
