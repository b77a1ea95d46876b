import CueFront.Proofs.Run.Stage
import Mathlib.Data.Nat.Init

/-!
# Courses

A trace is what has happened so far.  A course is a whole run: `Answers` says what the system
would answer at one moment, whatever the call is, and `course` follows a run through such
answers, one for each moment.  A run that is over makes no calls and stays where it is.

Nothing limits the answers, so every run of every system is a course, also one that never
ends.  `replay_course` ties courses to traces.
-/

namespace CueFront

/-- What the system would answer at one moment. -/
structure Answers where
  /-- Whether the token is raised. -/
  token : Bool := false
  /-- What the clock says. -/
  clock : Int := 0
  /-- What opening the null device gives. -/
  opened : Except Errno Descriptor := .ok 3
  /-- What making a pipe gives. -/
  piped : Except Errno (Descriptor × Descriptor) := .ok (3, 4)
  /-- What making a child gives. -/
  child : Except Errno Pid := .ok 42
  /-- What reading gives. -/
  read : Except Errno Bytes := .error .wouldBlock
  /-- What writing gives. -/
  wrote : Except Errno Nat := .error .wouldBlock
  /-- What a look at a child gives. -/
  waited : Waited := .running
  /-- Whether a kill reaches anyone. -/
  delivered : Bool := true

namespace Call

variable {σ : Type}

/-- The event that answers make of a call, and where they lead. -/
def respond : Call σ → Answers → Event × σ
  | .act action next, _ => (.act action, next)
  | .token next, answers => (.token answers.token, next answers.token)
  | .clock next, answers => (.clock answers.clock, next answers.clock)
  | .openNull next, answers => (.openNull answers.opened, next answers.opened)
  | .pipe next, answers => (.pipe answers.piped, next answers.piped)
  | .fork plan next, answers => (.fork plan answers.child, next answers.child)
  | .read descriptor count next, answers =>
    (.read descriptor count answers.read, next answers.read)
  | .write descriptor bytes next, answers =>
    (.write descriptor bytes answers.wrote, next answers.wrote)
  | .wait pid block next, answers => (.wait pid block answers.waited, next answers.waited)
  | .kill target next, answers => (.kill target answers.delivered, next answers.delivered)

theorem follow_respond (call : Call σ) (answers : Answers) :
    call.follow (call.respond answers).1 = some (call.respond answers).2 := by
  cases call <;> simp [respond, follow]

end Call

namespace Run

namespace State

variable {s t : State} {answers : Answers}

/-- The call that comes next, with the actions that are done left out. -/
def head : State → State
  | .acting [] after => after.head
  | s => s

/-- What does not look at actions that are done is the same at the head. -/
theorem apply_head {α : Type} (f : State → α) (blind : ∀ after, f (.acting [] after) = f after)
    (s : State) : f s.head = f s := by
  induction s with
  | acting actions after ih =>
    cases actions with
    | nil => exact ih.trans (blind after).symm
    | cons action actions => rfl
  | _ => rfl

@[simp] theorem call?_head (s : State) : s.head.call? = s.call? :=
  apply_head call? (fun _ => rfl) s

@[simp] theorem stage_head (s : State) : s.head.stage = s.stage :=
  apply_head stage (fun _ => rfl) s

theorem ordered_head : s.head.Ordered ↔ s.Ordered :=
  iff_of_eq (apply_head Ordered (fun _ => rfl) s)

/-- Where the answers lead a run.  A run that is over stays. -/
def respond (s : State) (answers : Answers) : State :=
  match s.call? with
  | some call => (call.respond answers).2
  | none => s

theorem respond_of_call {call : Call State} (calls : s.call? = some call) :
    s.respond answers = (call.respond answers).2 := by
  simp only [respond, calls]

theorem respond_of_over (ended : s.call? = none) : s.respond answers = s := by
  simp only [respond, ended]

/-- Actions that are all done get no answer of their own. -/
theorem respond_acting_nil {after : State} {call : Call State} (calls : after.call? = some call) :
    (State.acting [] after).respond answers = after.respond answers := by
  have same : (State.acting [] after).call? = some call := calls
  rw [respond_of_call same, respond_of_call calls]

theorem next?_respond {call : Call State} (calls : s.call? = some call) :
    s.next? (call.respond answers).1 = some (s.respond answers) := by
  rw [next?, calls, respond_of_call calls]
  exact call.follow_respond answers

/-- The event that the answers make of the next call. -/
def event? (s : State) (answers : Answers) : Option Event :=
  s.call?.map (·.respond answers |>.1)

theorem next?_of_event? {event : Event} (happens : s.event? answers = some event) :
    s.next? event = some (s.respond answers) := by
  obtain ⟨call, calls, rfl⟩ := Option.map_eq_some_iff.mp happens
  exact next?_respond calls

end State

/-! ## Courses -/

variable {job : Job} {answers : Nat → Answers}

/-- Where a run stands after a number of answers. -/
def course (job : Job) (answers : Nat → Answers) : Nat → State
  | 0 => .fresh job
  | moment + 1 => (course job answers moment).respond (answers moment)

/-- What has happened up to a moment. -/
def happened (job : Job) (answers : Nat → Answers) : Nat → List Event
  | 0 => []
  | moment + 1 =>
    happened job answers moment ++ ((course job answers moment).event? (answers moment)).toList

/-- A course follows the trace of what has happened. -/
theorem replay_course (job : Job) (answers : Nat → Answers) (moment : Nat) :
    (State.fresh job).replay (happened job answers moment) = some (course job answers moment) := by
  induction moment with
  | zero => rfl
  | succ moment ih =>
    rw [happened, State.replay_append, ih, Option.bind_some, course]
    cases happens : (course job answers moment).event? (answers moment) with
    | none =>
      rw [State.respond_of_over (Option.map_eq_none_iff.mp happens)]
      rfl
    | some event =>
      exact Option.bind_eq_some_iff.mpr ⟨_, State.next?_of_event? happens, rfl⟩

theorem course_ordered (moment : Nat) : (course job answers moment).Ordered :=
  ordered_of_replay (State.ordered_fresh job) (replay_course job answers moment)

/-- What the order of the calls guarantees of the next call. -/
theorem ordered_of_head {moment : Nat} {s : State} (here : (course job answers moment).head = s) :
    s.Ordered :=
  here ▸ State.ordered_head.mpr (course_ordered moment)

theorem stage_of_head {moment : Nat} {s : State} (here : (course job answers moment).head = s) :
    (course job answers moment).stage = s.stage := by
  rw [← State.stage_head, here]

/-- The next call decides where a course goes. -/
theorem course_of_head {moment : Nat} {s : State} {call : Call State}
    (here : (course job answers moment).head = s) (calls : s.call? = some call) :
    course job answers (moment + 1) = (call.respond (answers moment)).2 :=
  State.respond_of_call (by rw [← calls, ← here, State.call?_head])

/-- One moment of a course is a step of the stages. -/
theorem course_step {moment : Nat} {event : Event}
    (happens : (course job answers moment).event? (answers moment) = some event) :
    Stage.Step (course job answers moment).stage event (course job answers (moment + 1)).stage :=
  (next?_stage (course_ordered moment) (State.next?_of_event? happens)).2

/-- A run that is over stays over. -/
theorem reported_of_le {first later : Nat} {report : RunReport} (order : first ≤ later)
    (ended : (course job answers first).stage = .reported report) :
    (course job answers later).stage = .reported report := by
  induction later, order using Nat.le_induction with
  | base => exact ended
  | succ later order ih =>
    cases happens : (course job answers later).event? (answers later) with
    | none => rwa [course, State.respond_of_over (Option.map_eq_none_iff.mp happens)]
    | some event =>
      have step := course_step happens
      rw [ih] at step
      generalize stage : (course job answers (later + 1)).stage = next at step
      cases step
      rfl

end Run

end CueFront
