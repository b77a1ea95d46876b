import CueFront.Proofs.Run.Descriptors
import Mathlib.Data.List.Induction

/-!
# Pipes

A run is not alone with its pipes: others write to them and close them.  A history is what
happens to the pipes of a run in order: its own calls, and what others put into a pipe.  A
pipe is named by the end where it is read.

`Lawful` says what the system guarantees.  It gives no descriptor out twice.  A read gives
bytes that were put into the pipe and not read yet, in the order in which they were put there.
It finds the end only when all of them were read and nobody can write any more.  Nothing else
is guaranteed: bytes may come in any number of parts, and a read may fail at any time.
-/

namespace CueFront

/-- The bytes that an event takes out of a pipe. -/
def Event.readFrom (pipe : Descriptor) : Event → Bytes
  | .read source _ (.ok bytes) => if source = pipe then bytes else []
  | _ => []

/-- An event takes nothing out of a pipe, or it is a read there. -/
theorem Event.readFrom_cases (pipe : Descriptor) (event : Event) :
    event.readFrom pipe = [] ∨
      ∃ count bytes, event = .read pipe count (.ok bytes) ∧ event.readFrom pipe = bytes := by
  cases event with
  | read source count answer =>
    cases answer with
    | ok bytes =>
      by_cases same : source = pipe
      · subst same
        exact .inr ⟨count, bytes, rfl, if_pos rfl⟩
      · exact .inl (if_neg same)
    | error errno => exact .inl rfl
  | _ => exact .inl rfl

/-- What a run has read from a pipe. -/
def received (pipe : Descriptor) (trace : List Event) : Bytes :=
  trace.flatMap (·.readFrom pipe)

@[simp] theorem received_nil (pipe : Descriptor) : received pipe [] = [] := rfl

@[simp] theorem received_append (pipe : Descriptor) (first second : List Event) :
    received pipe (first ++ second) = received pipe first ++ received pipe second :=
  List.flatMap_append

@[simp] theorem received_singleton (pipe : Descriptor) (event : Event) :
    received pipe [event] = event.readFrom pipe :=
  List.flatMap_singleton ..

/-! ## Histories -/

/-- What can happen to the pipes of a run. -/
inductive Move where
  /-- The run makes a call. -/
  | call (event : Event)
  /-- Someone writes to a pipe. -/
  | put (pipe : Descriptor) (bytes : Bytes)
  /-- The last one who could write to a pipe closes it. -/
  | hangUp (pipe : Descriptor)

namespace Move

/-- The call of the run, if it is one. -/
def call? : Move → Option Event
  | .call event => some event
  | _ => none

/-- The bytes that a move puts into a pipe. -/
def putTo (pipe : Descriptor) : Move → Bytes
  | .put target bytes => if target = pipe then bytes else []
  | _ => []

/-- Nobody can write to a pipe after the move. -/
def endsWriting (pipe : Descriptor) : Move → Bool
  | .hangUp target => target == pipe
  | _ => false

end Move

/-- The calls of the run in a history. -/
def calls (history : List Move) : List Event := history.filterMap Move.call?

/-- What was ever written to a pipe. -/
def written (pipe : Descriptor) (history : List Move) : Bytes := history.flatMap (·.putTo pipe)

/-- Nobody can write to a pipe any more. -/
def hungUp (pipe : Descriptor) (history : List Move) : Bool := history.any (·.endsWriting pipe)

@[simp] theorem calls_append (first second : List Move) :
    calls (first ++ second) = calls first ++ calls second :=
  List.filterMap_append

@[simp] theorem written_append (pipe : Descriptor) (first second : List Move) :
    written pipe (first ++ second) = written pipe first ++ written pipe second :=
  List.flatMap_append

theorem mem_calls {event : Event} {history : List Move} :
    event ∈ calls history ↔ .call event ∈ history := by
  rw [calls, List.mem_filterMap]
  constructor
  · rintro ⟨move, made, is⟩
    cases move with
    | call other =>
      cases is
      exact made
    | _ => cases is
  · exact fun made => ⟨_, made, rfl⟩

/-- The system allows a move after what came before. -/
def Allowed (before : List Move) : Move → Prop
  | .call (.read pipe _ (.ok bytes)) =>
    received pipe (calls before) ++ bytes <+: written pipe before ∧
      (bytes = [] → hungUp pipe before ∧ received pipe (calls before) = written pipe before)
  | .put pipe _ => ¬ hungUp pipe before
  | _ => True

instance (before : List Move) : DecidablePred (Allowed before)
  | .call (.read _ _ (.ok _)) => inferInstanceAs (Decidable (_ ∧ _))
  | .call (.read _ _ (.error _)) => inferInstanceAs (Decidable True)
  | .call (.act _) | .call (.token _) | .call (.clock _) | .call (.openNull _) | .call (.pipe _)
  | .call (.fork _ _) | .call (.write _ _ _) | .call (.wait _ _ _) | .call (.kill _ _) =>
    inferInstanceAs (Decidable True)
  | .put pipe _ => inferInstanceAs (Decidable (¬ hungUp pipe before))
  | .hangUp _ => inferInstanceAs (Decidable True)

/-- The system keeps its guarantees. -/
structure Lawful (history : List Move) : Prop where
  /-- No descriptor is given out twice. -/
  fresh : ((calls history).flatMap Event.opened).Nodup
  /-- Every move is allowed after those before it. -/
  allowed : ∀ moment (inside : moment < history.length),
    Allowed (history.take moment) history[moment]

namespace Lawful

variable {history before after more : List Move} {move : Move} {pipe : Descriptor}

theorem of_append (lawful : Lawful (history ++ more)) : Lawful history where
  fresh := by
    have fresh := lawful.fresh
    rw [calls_append] at fresh
    exact nodup_opened_left fresh
  allowed moment inside := by
    have longer : moment < (history ++ more).length := by
      rw [List.length_append]
      omega
    have allowed := lawful.allowed moment longer
    rwa [List.take_append_of_le_length (Nat.le_of_lt inside),
      List.getElem_append_left inside] at allowed

theorem allowed_at (lawful : Lawful (before ++ move :: after)) : Allowed before move := by
  have allowed := lawful.allowed before.length (by simp)
  simpa using allowed

/-- What was read from a pipe is a prefix of what was written to it. -/
theorem received_prefix (lawful : Lawful history) (pipe : Descriptor) :
    received pipe (calls history) <+: written pipe history := by
  induction history using List.reverseRecOn with
  | nil => exact List.nil_prefix
  | append_singleton before move ih =>
    have earlier := ih lawful.of_append
    rw [calls_append, received_append, written_append]
    cases move with
    | put target bytes =>
      have quiet : calls [.put target bytes] = [] := rfl
      rw [quiet, received_nil, List.append_nil]
      exact earlier.trans (List.prefix_append ..)
    | hangUp target =>
      have quiet : calls [.hangUp target] = [] := rfl
      have dry : written pipe [.hangUp target] = [] := rfl
      rw [quiet, dry, received_nil, List.append_nil, List.append_nil]
      exact earlier
    | call event =>
      have same : calls [.call event] = [event] := rfl
      have dry : written pipe [.call event] = [] := rfl
      rw [same, dry, received_singleton, List.append_nil]
      rcases event.readFrom_cases pipe with none_ | ⟨count, bytes, rfl, some_⟩
      · rw [none_, List.append_nil]
        exact earlier
      · rw [some_]
        exact lawful.allowed_at.1

/-- After the end of a pipe was read nothing is written to it, and all of it was read. -/
theorem written_of_end {count : Nat}
    (lawful : Lawful (before ++ .call (.read pipe count (.ok [])) :: after)) :
    written pipe (before ++ .call (.read pipe count (.ok [])) :: after) =
      received pipe (calls before) := by
  obtain ⟨-, ends⟩ := lawful.allowed_at
  obtain ⟨closed, complete⟩ := ends rfl
  have silent : written pipe (.call (.read pipe count (.ok [])) :: after) = [] := by
    refine List.flatMap_eq_nil_iff.mpr fun move inside => ?_
    obtain ⟨between, later, same⟩ := List.append_of_mem inside
    rw [same, ← List.append_assoc] at lawful
    have allowed := lawful.allowed_at
    cases move with
    | put target bytes =>
      refine if_neg fun here => allowed ?_
      rw [here, hungUp, List.any_append, Bool.or_eq_true]
      exact .inl closed
    | _ => rfl
  rw [written_append, silent, List.append_nil, complete]

/-- After the end of a pipe was read, nothing more is read from it. -/
theorem received_of_end {count : Nat}
    (lawful : Lawful (before ++ .call (.read pipe count (.ok [])) :: after)) :
    received pipe (calls (before ++ .call (.read pipe count (.ok [])) :: after)) =
      received pipe (calls before) := by
  have most := lawful.received_prefix pipe
  rw [lawful.written_of_end] at most
  refine most.eq_of_length_le ?_
  rw [calls_append, received_append, List.length_append]
  exact Nat.le_add_right ..

end Lawful

end CueFront
