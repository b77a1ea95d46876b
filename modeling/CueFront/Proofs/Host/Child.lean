import CueFront.Proofs.Host.Scene

/-!
# From fork to exec

A child of a run starts with a copy of all descriptors of the front end.  It puts its ends of
three pipes in place of its standard descriptors, one after the other, and executes its program.
`Redirecting` says what it holds of the pipes of the runs in between: besides what it has put in
place there is only what does not survive the exec.  So the program holds nothing but what was
put in place (`advance_preparing`).
-/

namespace CueFront

namespace Host

open Run (State)

/-! ## The code of a child -/

theorem redirectCall_of_ne {original target : Descriptor} (apart : original ≠ target) :
    redirectCall original target = .duplicate original target :=
  if_neg (by simpa using apart)

/-- Code that only writes and exits. -/
inductive Lost : Code → Prop where
  /-- It exits. -/
  | exit (code : Nat) : Lost (.exit code)
  /-- It writes. -/
  | write (descriptor : Descriptor) (bytes : Bytes) {next : Reply → Code}
      (later : ∀ reply, Lost (next reply)) : Lost (.call (.write descriptor bytes) next)

/-- What is left of a write that was done in part still only writes and exits. -/
theorem Lost.restOf {descriptor : Descriptor} {bytes : Bytes} {next : Reply → Code}
    (later : ∀ reply, Lost (next reply)) (count : Nat) :
    Lost (Kernel.restOf (.write descriptor bytes) count next) := by
  refine .write descriptor _ fun reply => ?_
  split
  · exact later _
  · exact later _

/-! ## What belongs to a run -/

/-- What a process holds, as a relation of descriptors, sources and flags. -/
abbrev Holding := Descriptor → Source → Bool → Prop

theorem holding_ext {before after : Holding}
    (same : ∀ descriptor source closeOnExec,
      after descriptor source closeOnExec ↔ before descriptor source closeOnExec) :
    after = before :=
  funext fun _ => funext fun _ => funext fun _ => propext (same _ _ _)

section Made

variable {made : List Made} {run : Nat} {target : Descriptor} {source : Source} {one : Made}

/-- A source fits what the child of a run has at a standard descriptor: its end of the line, or
the null device if there is no input. -/
def Fits (made : List Made) (run : Nat) (target : Descriptor) (source : Source) : Prop :=
  target = 0 ∧ source = .device .null ∨
    ∃ one ∈ made, one.run = run ∧ one.childEnd? = some (target, source)

/-- No two pipes have one number. -/
def Once (made : List Made) : Prop :=
  ∀ one ∈ made, ∀ other ∈ made, one.number = other.number → one = other

theorem Made.pipe?_childEnd (same : one.childEnd? = some (target, source)) :
    source.pipe? = some one.number := by
  obtain ⟨number, run, line⟩ := one
  cases line <;> cases same <;> rfl

/-- An end of a pipe fits only in the child of the pipe's run, where that child has it. -/
theorem Fits.childEnd (fits : Fits made run target source) (once : Once made) (member : one ∈ made)
    (ends : source.pipe? = some one.number) :
    one.run = run ∧ one.childEnd? = some (target, source) := by
  rcases fits with ⟨-, rfl⟩ | ⟨other, second, here, same⟩
  · cases ends
  · have number := Option.some.inj ((Made.pipe?_childEnd same).symm.trans ends)
    cases once other second one member number
    exact ⟨here, same⟩

end Made

/-! ## Redirection -/

/-- What the child of a run holds while it has still to put some descriptors in place. -/
structure Redirecting (made : List Made) (holds : Holding) (run : Nat)
    (rest : List (Descriptor × Descriptor)) : Prop where
  /-- An end of a pipe is closed by the exec, or was put in place. -/
  held : ∀ descriptor source closeOnExec, holds descriptor source closeOnExec →
    ∀ one ∈ made, source.pipe? = some one.number →
      closeOnExec = true ∨ one.run = run ∧ one.childEnd? = some (descriptor, source)
  /-- What is still to be put in place is there and fits. -/
  waiting : ∀ redirect ∈ rest, redirect.1 < 3 ∧ 3 ≤ redirect.2 ∧
    ∃ source, holds redirect.2 source true ∧ Fits made run redirect.1 source
  /-- The rest is in place. -/
  placed : ∀ target < 3, target ∉ rest.map (·.1) →
    ∃ source, holds target source false ∧ Fits made run target source

/-- One more descriptor is put in place.  Whatever stood there is gone, and the original stays where
it was, to be closed by the exec. -/
theorem Redirecting.next {made : List Made} {holds later : Holding} {run : Nat}
    {target original : Descriptor} {rest : List (Descriptor × Descriptor)} (once : Once made)
    (unique : ∀ source source' kept kept', holds original source kept →
      holds original source' kept' → source = source')
    (before : Redirecting made holds run ((target, original) :: rest))
    (changed : ∀ descriptor source closeOnExec, later descriptor source closeOnExec ↔
      descriptor = target ∧ closeOnExec = false ∧ (∃ before, holds original source before) ∨
        descriptor ≠ target ∧ holds descriptor source closeOnExec) :
    Redirecting made later run rest := by
  obtain ⟨low, high, source, original, fits⟩ := before.waiting _ List.mem_cons_self
  refine ⟨?_, ?_, ?_⟩
  · intro descriptor source' kept held one member ends
    rcases (changed _ _ _).mp held with ⟨rfl, -, copied, there⟩ | ⟨-, there⟩
    · cases unique _ _ _ _ original there
      exact .inr (fits.childEnd once member ends)
    · exact before.held _ _ _ there one member ends
  · intro redirect member
    obtain ⟨low', high', source', there, fits'⟩ :=
      before.waiting redirect (List.mem_cons_of_mem _ member)
    refine ⟨low', high', source', (changed _ _ _).mpr (.inr ⟨?_, there⟩), fits'⟩
    exact Nat.ne_of_gt (Nat.lt_of_lt_of_le low high')
  · intro other low' settled
    by_cases here : other = target
    · subst here
      exact ⟨source, (changed _ _ _).mpr (.inl ⟨rfl, rfl, true, original⟩), fits⟩
    · obtain ⟨source', there, fits'⟩ := before.placed other low' (by simp [here, settled])
      exact ⟨source', (changed _ _ _).mpr (.inr ⟨here, there⟩), fits'⟩

/-! ## How processes stand -/

/-- The child of a run on its way to the exec, or past one that failed. -/
inductive Prepares (made : List Made) (holds : Holding) (run : Nat) : Activity → Prop where
  /-- It has done nothing yet. -/
  | forked (plan : ChildPlan) (redirecting : Redirecting made holds run plan.redirects) :
      Prepares made holds run (.running (childCode plan))
  /-- It leads its group. -/
  | grouped (plan : ChildPlan) (redirecting : Redirecting made holds run plan.redirects) :
      Prepares made holds run (.running
        (.call (.dispose Signal.pipe .standard) fun _ => redirectCode plan plan.redirects))
  /-- It has put some descriptors in place. -/
  | redirecting (plan : ChildPlan) (rest : List (Descriptor × Descriptor))
      (redirecting : Redirecting made holds run rest) :
      Prepares made holds run (.running (redirectCode plan rest))
  /-- It could not execute its program. -/
  | lost {code : Code} (lost : Lost code)
      (held : ∀ descriptor source closeOnExec, holds descriptor source closeOnExec →
        ∀ one ∈ made, source.pipe? = some one.number →
          closeOnExec = true ∨ one.run = run ∧ one.childEnd? = some (descriptor, source)) :
      Prepares made holds run (.running code)

/-- What a process may hold of the pipes of the runs, by how it stands to them. -/
def Standing.Allows (made : List Made) (holds : Holding) (activity : Activity) : Standing → Prop
  | .outside => ∀ descriptor source closeOnExec, holds descriptor source closeOnExec →
      ∀ one ∈ made, source.pipe? ≠ some one.number
  | .preparing run => Prepares made holds run activity
  | .started run =>
    (∀ descriptor source closeOnExec, holds descriptor source closeOnExec →
      ∀ one ∈ made, source.pipe? = some one.number →
        one.run = run ∧ one.childEnd? = some (descriptor, source)) ∧
      ∀ target < 3, ∃ source, holds target source false ∧ Fits made run target source
  | .working run => ∀ descriptor source closeOnExec, holds descriptor source closeOnExec →
      ∀ one ∈ made, source.pipe? = some one.number →
        one.run = run ∧ ∃ target, one.childEnd? = some (target, source)
  | .intruding => True

/-! ## Steps of a child -/

namespace Kernel

variable {kernel after : Kernel} {process : Process} {made : List Made} {run : Nat}

/-- A call that is answered. -/
theorem advance_answered {call : Syscall} {next : Reply → Code} {reply : Reply} {holds : Holding}
    (here : process.activity = .running (.call call next))
    (performed : kernel.perform process call = (.answer reply, after)) (sound : after.Sound)
    (changes : kernel.Changes after process.pid holds) :
    kernel.Resumes (kernel.advance process).2 process.pid (next reply) holds := by
  simp only [advance, here, performed]
  exact changes.resumes (resumes sound _ _ _)

theorem performWrite_ne_become {descriptor : Descriptor} {bytes : Bytes} {code : Code} :
    kernel.performWrite process descriptor bytes ≠ (.become code, after) := by
  intro same
  simp only [performWrite] at same
  repeat' split at same
  all_goals cases same

/-- A process goes on with code that only writes and exits, and holds no more than before. -/
structure Fades (before after : Kernel) (pid : Pid) : Prop where
  /-- No process is new. -/
  pids : after.nextPid = before.nextPid
  /-- The code that it runs. -/
  runs : ∀ activity, after.Runs pid activity → ∃ code, activity = .running code ∧ Lost code
  /-- What it holds. -/
  holds : ∀ descriptor source closeOnExec, after.Holds pid descriptor source closeOnExec →
    before.Holds pid descriptor source closeOnExec

theorem Quiet.holds {pid : Pid} {descriptor : Descriptor} {source : Source} {closeOnExec : Bool}
    (quiet : kernel.Quiet after) (held : after.Holds pid descriptor source closeOnExec) :
    kernel.Holds pid descriptor source closeOnExec := by
  obtain ⟨activity, running⟩ := quiet.sound.runs_of_holds held
  exact ((quiet.keeps pid activity running).2 _ _ _).mp held

/-- A process whose code only writes and exits fades by a step that changes no descriptor. -/
theorem Quiet.fades {code : Code} (quiet : kernel.Quiet after) (sound : kernel.Sound)
    (member : process ∈ kernel.processes) (here : process.activity = .running code)
    (lost : Lost code) : kernel.Fades after process.pid := by
  refine ⟨quiet.pids, fun activity running => ?_, fun _ _ _ => quiet.holds⟩
  obtain ⟨other, second, pid, -, rfl⟩ := (quiet.keeps _ activity running).1
  rw [sound.unique second member pid, here]
  exact ⟨code, rfl, lost⟩

theorem Quiet.fades_resume {code : Code} (quiet : kernel.Quiet after) (pid : Pid) (cost : Nat)
    (lost : Lost code) : kernel.Fades (after.resume pid code cost) pid := by
  have resumed := resumes quiet.sound pid code cost
  exact ⟨resumed.pids.trans quiet.pids,
    fun activity running => ⟨code, resumed.runs activity running, lost⟩,
    fun _ _ _ held => quiet.holds ((resumed.holds _ _ _).mp held)⟩

/-- Code that only writes and exits can do nothing but fade, whether its write is answered, is done
in part or has to wait. -/
theorem fades_advance (sound : kernel.Sound) (member : process ∈ kernel.processes) {code : Code}
    (here : process.activity = .running code) (lost : Lost code) :
    kernel.Fades (kernel.advance process).2 process.pid := by
  cases lost with
  | exit number =>
    simp only [advance, here]
    exact (quiet_terminate sound _ _).fades sound member here (.exit number)
  | @write descriptor bytes next later =>
    have writes := quiet_performWrite sound member descriptor bytes
    simp only [advance, here, perform]
    generalize written : kernel.performWrite process descriptor bytes = result at writes
    obtain ⟨verdict, after⟩ := result
    have stays := writes.fades sound member here (.write descriptor bytes later)
    cases verdict with
    | answer reply => exact writes.fades_resume _ _ (later reply)
    | partly count => exact writes.fades_resume _ _ (.restOf later count)
    | become code => exact absurd written performWrite_ne_become
    | gone => exact stays
    | wait =>
      simp only
      split
      · exact stays
      · have woken : after.Quiet (after.modifyProcess process.pid ({ · with sleepEnd := none })) :=
          writes.sound.quiet_modify fun _ _ _ => ⟨rfl, rfl, rfl⟩
        exact (writes.trans woken).fades_resume _ _ (later _)

/-- A child on its way makes no child, and stays on its way or executes its program. -/
theorem advance_preparing (sound : kernel.Sound) (once : Once made)
    (member : process ∈ kernel.processes)
    (prepares : Prepares made (kernel.Holds process.pid) run process.activity) :
    (kernel.advance process).2.nextPid = kernel.nextPid ∧
      ∀ activity, (kernel.advance process).2.Runs process.pid activity →
        Standing.Allows made ((kernel.advance process).2.Holds process.pid) activity
          ((Standing.preparing run).next (kernel.becomes process)) := by
  generalize here : process.activity = before at prepares
  have goes {call : Syscall} {next : Reply → Code} {reply : Reply} {holds : Holding}
      {after : Kernel} (here : process.activity = .running (.call call next))
      (performed : kernel.perform process call = (.answer reply, after)) (soundAfter : after.Sound)
      (changes : kernel.Changes after process.pid holds) (still : kernel.becomes process = false)
      (prepares : Prepares made holds run (.running (next reply))) :
      (kernel.advance process).2.nextPid = kernel.nextPid ∧
        ∀ activity, (kernel.advance process).2.Runs process.pid activity →
          Standing.Allows made ((kernel.advance process).2.Holds process.pid) activity
            ((Standing.preparing run).next (kernel.becomes process)) := by
    have resumed := advance_answered here performed soundAfter changes
    refine ⟨resumed.pids, fun activity running => ?_⟩
    rw [resumed.runs activity running, holding_ext resumed.holds, still]
    exact prepares
  cases prepares with
  | forked plan on =>
    rw [childCode] at here
    obtain ⟨soundAfter, changes⟩ := sound.changes_flags
      ⟨process, member, rfl, isEnded_of_running here, rfl⟩
      (fun other => { other with group := process.pid }) fun _ => ⟨rfl, rfl, rfl⟩
    exact goes here rfl soundAfter changes (by simp only [becomes, here]) (.grouped plan on)
  | grouped plan on =>
    obtain ⟨soundAfter, changes⟩ := sound.changes_flags
      ⟨process, member, rfl, isEnded_of_running here, rfl⟩
      (withDisposition · Signal.pipe .standard) fun other => withDisposition_same other _ _
    rw [← sound.putProcess_eq (withDisposition · Signal.pipe .standard) member rfl]
      at soundAfter changes
    exact goes here rfl soundAfter changes (by simp only [becomes, here])
      (.redirecting plan plan.redirects on)
  | redirecting plan rest on =>
    have alive := isEnded_of_running here
    cases rest with
    | cons redirect rest =>
      obtain ⟨target, original⟩ := redirect
      obtain ⟨low, high, source, there, -⟩ := on.waiting _ List.mem_cons_self
      rw [redirectCode, redirectCall_of_ne (Nat.ne_of_gt (Nat.lt_of_lt_of_le low high))] at here
      obtain ⟨number, slot, -⟩ := (sound.holds_iff member).mp there
      have found := lookup_of_mem (sound.fits process member).keys slot
      obtain ⟨soundAfter, changes⟩ := changes_duplicate sound member alive original target false
      have performed : kernel.perform process (.duplicate original target) =
          (.answer (.number target),
            (kernel.performDuplicate process original target false).2) := by
        simp only [perform, performDuplicate, Process.slot?, found]
      refine goes here performed soundAfter (changes (by simp [found])) ?_
        (.redirecting plan rest (on.next once ?_ fun _ _ _ => Iff.rfl))
      · simp only [becomes, here]
      · exact fun _ _ _ _ first second => (sound.holds_unique first second).1
    | nil =>
      cases executed : kernel.execute process plan.executable.untilNul
          (plan.arguments.map (·.untilNul)) plan.environment with
      | error errno =>
        have performed : kernel.perform process
            (.exec plan.executable.untilNul (plan.arguments.map (·.untilNul)) plan.environment) =
              (.answer (.failed errno), kernel) := by simp only [perform, executed]
        refine goes here performed sound (Changes.refl kernel process.pid) ?_
          (.lost (.write _ _ fun _ => .exit 127) on.held)
        simp only [becomes, here, redirectCode, executed]
        rfl
      | ok result =>
        obtain ⟨code, after⟩ := result
        obtain ⟨soundAfter, changes⟩ := changes_execute sound member alive executed
        have becomes : kernel.becomes process = true := by
          simp only [Kernel.becomes, here, redirectCode, executed]
          rfl
        have advanced : (kernel.advance process).2 = after.resume process.pid code startCost := by
          simp only [advance, here, redirectCode, perform, executed]
        have resumed := changes.resumes (resumes soundAfter process.pid code startCost)
        rw [becomes, advanced, holding_ext resumed.holds]
        refine ⟨resumed.pids, fun activity _ => ⟨?_, fun target low => ?_⟩⟩
        · rintro descriptor source kept ⟨rfl, held⟩ one second ends
          exact (on.held _ _ _ held one second ends).resolve_left Bool.false_ne_true
        · obtain ⟨source, held, fits⟩ := on.placed target low List.not_mem_nil
          exact ⟨source, ⟨rfl, held⟩, fits⟩
  | @lost code lost held =>
    have fades := fades_advance sound member here lost
    have still : kernel.becomes process = false := by
      simp only [becomes, here]
      cases lost <;> rfl
    refine ⟨fades.pids, fun activity running => ?_⟩
    obtain ⟨later, rfl, lost'⟩ := fades.runs activity running
    rw [still]
    exact Prepares.lost lost' fun descriptor source closeOnExec there =>
      held descriptor source closeOnExec (fades.holds _ _ _ there)

end Kernel

end Host

end CueFront
