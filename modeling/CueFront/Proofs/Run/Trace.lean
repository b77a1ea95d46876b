import CueFront.Run.Machine
import Mathlib.Data.List.Induction

/-!
# Traces

A run is a machine that makes calls; the system answers them.  An `Event` is a call with
its answer, and a trace is the list of the events of a run, oldest first.  The answers are
not limited in any way, so a statement about all traces holds for every system, every
schedule and every behaviour of the child.

`State.replay` follows a trace from a state.  It gives nothing when an event is not the call
that the machine makes there.  The lemmas `Call.follow_*` say which event answers a call.
-/

namespace CueFront

/-- A call and the answer to it. -/
inductive Event where
  /-- A call whose answer is of no interest. -/
  | act (action : Action)
  /-- A look at the cancel token. -/
  | token (raised : Bool)
  /-- A look at the clock. -/
  | clock (now : Int)
  /-- The null device was opened, or not. -/
  | openNull (opened : Except Errno Descriptor)
  /-- A pipe was made, or not. -/
  | pipe (opened : Except Errno (Descriptor × Descriptor))
  /-- A child was made, or not. -/
  | fork (plan : ChildPlan) (child : Except Errno Pid)
  /-- A read and what it gave. -/
  | read (descriptor : Descriptor) (count : Nat) (answer : Except Errno Bytes)
  /-- A write and how much of it was taken. -/
  | write (descriptor : Descriptor) (bytes : Bytes) (answer : Except Errno Nat)
  /-- A look at a child, or a wait for its end. -/
  | wait (pid : Pid) (block : Bool) (waited : Waited)
  /-- A kill, and whether anyone got it. -/
  | kill (target : Target) (delivered : Bool)

namespace Call

variable {σ : Type} {event : Event} {s : σ}

/-- Where an event leads a machine that makes the call, if the event answers the call. -/
def follow : Call σ → Event → Option σ
  | .act action next, .act done => if action = done then some next else none
  | .token next, .token raised => some (next raised)
  | .clock next, .clock now => some (next now)
  | .openNull next, .openNull opened => some (next opened)
  | .pipe next, .pipe opened => some (next opened)
  | .fork plan next, .fork forked child => if plan = forked then some (next child) else none
  | .read descriptor count next, .read source most answer =>
    if descriptor = source ∧ count = most then some (next answer) else none
  | .write descriptor bytes next, .write sink offered answer =>
    if descriptor = sink ∧ bytes = offered then some (next answer) else none
  | .wait pid block next, .wait child blocking waited =>
    if pid = child ∧ block = blocking then some (next waited) else none
  | .kill target next, .kill hit delivered =>
    if target = hit then some (next delivered) else none
  | _, _ => none

/-! ## The events that answer a call

The match is computed for each pair of constructors, since its equations are slow to derive. -/

theorem follow_act {action : Action} {next : σ} :
    (Call.act action next).follow event = some s ↔ event = .act action ∧ s = next := by
  cases event with
  | act done =>
    change (if action = done then some next else none) = some s ↔ _
    simp [eq_comm]
  | _ => exact ⟨nofun, nofun⟩

theorem follow_token {next : Bool → σ} :
    (Call.token next).follow event = some s ↔
      ∃ raised, event = .token raised ∧ s = next raised := by
  cases event with
  | token raised =>
    change some (next raised) = some s ↔ _
    simp [eq_comm]
  | _ => exact ⟨nofun, nofun⟩

theorem follow_clock {next : Int → σ} :
    (Call.clock next).follow event = some s ↔ ∃ now, event = .clock now ∧ s = next now := by
  cases event with
  | clock now =>
    change some (next now) = some s ↔ _
    simp [eq_comm]
  | _ => exact ⟨nofun, nofun⟩

theorem follow_openNull {next : Except Errno Descriptor → σ} :
    (Call.openNull next).follow event = some s ↔
      ∃ opened, event = .openNull opened ∧ s = next opened := by
  cases event with
  | openNull opened =>
    change some (next opened) = some s ↔ _
    simp [eq_comm]
  | _ => exact ⟨nofun, nofun⟩

theorem follow_pipe {next : Except Errno (Descriptor × Descriptor) → σ} :
    (Call.pipe next).follow event = some s ↔
      ∃ opened, event = .pipe opened ∧ s = next opened := by
  cases event with
  | pipe opened =>
    change some (next opened) = some s ↔ _
    simp [eq_comm]
  | _ => exact ⟨nofun, nofun⟩

theorem follow_fork {plan : ChildPlan} {next : Except Errno Pid → σ} :
    (Call.fork plan next).follow event = some s ↔
      ∃ child, event = .fork plan child ∧ s = next child := by
  cases event with
  | fork forked child =>
    change (if plan = forked then some (next child) else none) = some s ↔ _
    grind
  | _ => exact ⟨nofun, nofun⟩

theorem follow_read {descriptor : Descriptor} {count : Nat} {next : Except Errno Bytes → σ} :
    (Call.read descriptor count next).follow event = some s ↔
      ∃ answer, event = .read descriptor count answer ∧ s = next answer := by
  cases event with
  | read source most answer =>
    change (if descriptor = source ∧ count = most then some (next answer) else none) = some s ↔ _
    grind
  | _ => exact ⟨nofun, nofun⟩

theorem follow_write {descriptor : Descriptor} {bytes : Bytes} {next : Except Errno Nat → σ} :
    (Call.write descriptor bytes next).follow event = some s ↔
      ∃ answer, event = .write descriptor bytes answer ∧ s = next answer := by
  cases event with
  | write sink offered answer =>
    change (if descriptor = sink ∧ bytes = offered then some (next answer) else none) = some s ↔ _
    grind
  | _ => exact ⟨nofun, nofun⟩

theorem follow_wait {pid : Pid} {block : Bool} {next : Waited → σ} :
    (Call.wait pid block next).follow event = some s ↔
      ∃ waited, event = .wait pid block waited ∧ s = next waited := by
  cases event with
  | wait child blocking waited =>
    change (if pid = child ∧ block = blocking then some (next waited) else none) = some s ↔ _
    grind
  | _ => exact ⟨nofun, nofun⟩

theorem follow_kill {target : Target} {next : Bool → σ} :
    (Call.kill target next).follow event = some s ↔
      ∃ delivered, event = .kill target delivered ∧ s = next delivered := by
  cases event with
  | kill hit delivered =>
    change (if target = hit then some (next delivered) else none) = some s ↔ _
    grind
  | _ => exact ⟨nofun, nofun⟩

end Call

namespace Run

namespace State

/-- Where an event leads a run. -/
def next? (s : State) (event : Event) : Option State := s.call?.bind (·.follow event)

/-- Where a trace leads a run. -/
def replay (s : State) (trace : List Event) : Option State := trace.foldlM next? s

@[simp] theorem replay_nil (s : State) : s.replay [] = some s := rfl

theorem replay_append (s : State) (first second : List Event) :
    s.replay (first ++ second) = (s.replay first).bind (·.replay second) := by
  simp [replay, List.foldlM_append]

theorem replay_concat {s t : State} {trace : List Event} {event : Event} :
    s.replay (trace ++ [event]) = some t ↔
      ∃ u, s.replay trace = some u ∧ u.next? event = some t := by
  rw [replay_append, Option.bind_eq_some_iff]
  simp [replay]

theorem replay_cons {s t : State} {event : Event} {trace : List Event} :
    s.replay (event :: trace) = some t ↔
      ∃ u, s.next? event = some u ∧ u.replay trace = some t := by
  simp only [replay, List.foldlM_cons, Option.bind_eq_bind, Option.bind_eq_some_iff]

/-- A trace that does not end here begins with an answer to the next call. -/
theorem replay_of_call {s t : State} {call : Call State} {trace : List Event}
    (calls : s.call? = some call) (run : s.replay trace = some t) :
    trace = [] ∧ t = s ∨ ∃ event rest u, trace = event :: rest ∧
      call.follow event = some u ∧ u.replay rest = some t := by
  cases trace with
  | nil =>
    cases run
    exact .inl ⟨rfl, rfl⟩
  | cons event rest =>
    obtain ⟨u, step, later⟩ := replay_cons.mp run
    rw [next?, calls] at step
    exact .inr ⟨event, rest, u, rfl, step, later⟩

/-- A run can be looked at before and after any of its events. -/
theorem replay_split {s t : State} {before after : List Event} {event : Event} :
    s.replay (before ++ event :: after) = some t ↔
      ∃ u v, s.replay before = some u ∧ u.next? event = some v ∧ v.replay after = some t := by
  simp only [replay_append, Option.bind_eq_some_iff, replay_cons]
  exact ⟨fun ⟨u, first, v, step, last⟩ => ⟨u, v, first, step, last⟩,
    fun ⟨u, v, first, step, last⟩ => ⟨u, first, v, step, last⟩⟩

/-- What holds at the start and is kept by every event holds wherever a trace leads. -/
theorem replay_induction {P : List Event → State → Prop} {s : State} (start : P [] s)
    (keep : ∀ trace u event t, P trace u → u.next? event = some t → P (trace ++ [event]) t)
    {trace : List Event} {t : State} (run : s.replay trace = some t) : P trace t := by
  induction trace using List.reverseRecOn generalizing t with
  | nil =>
    cases run
    exact start
  | append_singleton earlier event ih =>
    obtain ⟨u, before, step⟩ := replay_concat.mp run
    exact keep earlier u event t (ih before) step

/-- Actions that are all done are no call of their own. -/
@[simp] theorem next?_acting_nil (after : State) (event : Event) :
    (State.acting [] after).next? event = after.next? event := rfl

end State

end Run

end CueFront
