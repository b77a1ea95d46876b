import CueFront.Proofs.Run.Stage

/-!
# Muted runs

Once the input of its child is closed, a run does nothing with what it did not send, with how
much it sent, and with what it logged, but to log more.  `State.muted` forgets these.  A state
and its muted one make the same calls and get to states that are the same when muted
(`muted_call`).  So two runs whose input is closed, and which are the same when muted, go
through the same events and end with the same value (`replay_muted`).
-/

namespace CueFront

/-- The call with what comes after it mapped. -/
def Call.map {σ τ : Type} (f : σ → τ) : Call σ → Call τ
  | .act action next => .act action (f next)
  | .token next => .token (f ∘ next)
  | .clock next => .clock (f ∘ next)
  | .openNull next => .openNull (f ∘ next)
  | .pipe next => .pipe (f ∘ next)
  | .fork plan next => .fork plan (f ∘ next)
  | .read descriptor count next => .read descriptor count (f ∘ next)
  | .write descriptor bytes next => .write descriptor bytes (f ∘ next)
  | .wait pid block next => .wait pid block (f ∘ next)
  | .kill target next => .kill target (f ∘ next)

/-- Mapping the next states of a call does not change which events follow it. -/
theorem Call.follow_map {σ τ : Type} (f : σ → τ) (call : Call σ) (event : Event) :
    (call.map f).follow event = (call.follow event).map f := by
  cases call <;> cases event <;> try rfl
  all_goals simp only [map, follow, apply_ite (Option.map f), Option.map_some, Option.map_none,
    Function.comp_apply]

namespace Run

/-- The run without what was not sent, how much was sent, and the log. -/
def Live.muted (live : Live) : Live := { live with unsent := [], sent := 0, log := [] }

/-- The state of the muted run, once the program runs. -/
def State.muted : State → State
  | .clock live => .clock live.muted
  | .token live => .token live.muted
  | .kill live target after => .kill live.muted target after
  | .write live descriptor => .write live.muted descriptor
  | .drainOutput live descriptor => .drainOutput live.muted descriptor
  | .drainErrors live descriptor => .drainErrors live.muted descriptor
  | .reap live => .reap live.muted
  | .lastWait live => .lastWait live.muted
  | .readEnd live => .readEnd live.muted
  | .acting actions after => .acting actions after.muted
  | .finished report => .finished { report with log := [] }
  | s => s

/-! ## The input is closed -/

/-- The program runs and its input is closed, or the run is over. -/
def Stage.Shut : Stage → Prop
  | .passing live _ => live.input = none
  | .reported _ => True
  | _ => False

/-- The input stays closed. -/
theorem Stage.Step.shut {stage next : Stage} {event : Event} (step : Stage.Step stage event next)
    (shut : stage.Shut) : next.Shut := by
  cases step with
  | act => exact shut
  | prepare | readStart | cancelledBeforeStart | giveUp | fork => exact absurd shut id
  | reportLater | refuse | begin | reapLater | reapRefused => exact absurd shut id
  | wrote writing | writeLater writing | writeShunned writing => cases writing.symm.trans shut
  | writeFailed busy writing => cases writing.symm.trans shut
  | writeFailedLate writing => cases writing.symm.trans shut
  | finish => trivial
  | _ => exact shut

@[simp] theorem State.muted_muted (s : State) : s.muted.muted = s.muted := by
  induction s with
  | acting actions after ih => exact congrArg (State.acting actions) ih
  | _ => rfl

theorem State.muted_of_eq {s t : State} (same : s = t.muted) : s.muted = t.muted := by
  rw [same, muted_muted]

/-! ## Steps within a pass -/

namespace Live

variable {live : Live}

theorem muted_startPass (live : Live) : live.muted.startPass = live.startPass.muted := by
  simp only [startPass, leave, apply_ite State.muted]
  rfl

theorem muted_toReap (live : Live) : live.muted.toReap = live.toReap.muted := by
  simp only [toReap, apply_ite State.muted, ← muted_startPass]
  rfl

theorem muted_toDrainErrors (live : Live) :
    live.muted.toDrainErrors = live.toDrainErrors.muted := by
  have same : live.muted.errors = live.errors := rfl
  simp only [toDrainErrors, same]
  cases live.errors with
  | some descriptor => rfl
  | none => exact live.muted_toReap

theorem muted_toDrainOutput (live : Live) :
    live.muted.toDrainOutput = live.toDrainOutput.muted := by
  have same : live.muted.output = live.output := rfl
  simp only [toDrainOutput, same]
  cases live.output with
  | some descriptor => rfl
  | none => exact live.muted_toDrainErrors

/-- Without an input a pass does not look at what is left to send. -/
theorem muted_toPoll (shut : live.input = none) : live.muted.toPoll = live.toPoll.muted := by
  have mutedShut : live.muted.input = none := shut
  simp only [toPoll, toWrite, shut, mutedShut, muted_toDrainOutput]
  rfl

theorem muted_afterClock (shut : live.input = none) (now : Int) :
    live.muted.afterClock now = (live.afterClock now).muted := by
  have later : Live.input { live with now } = none := shut
  have poll := muted_toPoll later
  have same : live.muted.killedAt = live.killedAt := rfl
  unfold afterClock
  simp only [same]
  split
  · rfl
  · simp only [leave, apply_ite State.muted, ← poll]
    rfl

theorem muted_afterToken (shut : live.input = none) (raised : Bool) :
    live.muted.afterToken raised = (live.afterToken raised).muted := by
  simp only [afterToken, apply_ite State.muted, ← muted_toPoll shut]
  rfl

theorem muted_afterKill (shut : live.input = none) (target : Target) (after : AfterKill)
    (delivered : Bool) :
    live.muted.afterKill target after delivered =
      (live.afterKill target after delivered).muted := by
  simp only [afterKill]
  split
  · rfl
  · cases after with
    | poll => exact muted_toPoll shut
    | drain => exact live.muted_toDrainOutput
    | wait => rfl

theorem muted_afterOutput (live : Live) (descriptor : Descriptor) (answer : Except Errno Bytes) :
    live.muted.afterOutput descriptor answer = (live.afterOutput descriptor answer).muted := by
  simp only [afterOutput]
  split
  · rfl
  · rfl
  · exact live.muted_toDrainErrors
  · exact congrArg (State.acting _) (muted_toDrainErrors { live with output := none })

theorem muted_afterErrors (live : Live) (descriptor : Descriptor) (answer : Except Errno Bytes) :
    live.muted.afterErrors descriptor answer = (live.afterErrors descriptor answer).muted := by
  simp only [afterErrors]
  split
  · rfl
  · rfl
  · exact live.muted_toReap
  · exact congrArg (State.acting _) (muted_toReap { live with errors := none })

theorem muted_afterReap (live : Live) (waited : Waited) :
    live.muted.afterReap waited = (live.afterReap waited).muted := by
  cases waited with
  | ended status => exact muted_startPass { live with exited := true, status := some status }
  | running => exact live.muted_startPass
  | failed errno =>
    simp only [afterReap, apply_ite State.muted, ← muted_startPass]
    rfl

/-- At its end a run tells its log, and a muted run ends with the same value. -/
theorem muted_close (live : Live) (ended : Int) :
    (live.muted.close (live.muted.report ended)).muted =
      (live.close (live.report ended)).muted := by
  have same : live.muted.writeFailure = live.writeFailure := rfl
  simp only [close, report, State.muted, same]
  cases live.writeFailure <;> rfl

end Live

/-! ## The same calls -/

variable {s t u : State} {trace : List Event} {event : Event}

/-- A state whose input is closed and its muted one make the same calls. -/
theorem muted_call (ordered : s.Ordered) (shut : s.stage.Shut) :
    s.muted.call?.map (·.map State.muted) = s.call?.map (·.map State.muted) := by
  induction s with
  | clock live =>
    refine congrArg (some ∘ Call.clock) (funext fun now => ?_)
    exact State.muted_of_eq (live.muted_afterClock shut now)
  | token live =>
    refine congrArg (some ∘ Call.token) (funext fun raised => ?_)
    exact State.muted_of_eq (live.muted_afterToken shut raised)
  | kill live target after =>
    refine congrArg (some ∘ Call.kill target) (funext fun delivered => ?_)
    exact State.muted_of_eq (live.muted_afterKill shut target after delivered)
  | write live descriptor => cases ordered.2.symm.trans shut
  | drainOutput live descriptor =>
    refine congrArg (some ∘ Call.read descriptor chunkSize) (funext fun answer => ?_)
    exact State.muted_of_eq (live.muted_afterOutput descriptor answer)
  | drainErrors live descriptor =>
    refine congrArg (some ∘ Call.read descriptor chunkSize) (funext fun answer => ?_)
    exact State.muted_of_eq (live.muted_afterErrors descriptor answer)
  | reap live =>
    refine congrArg (some ∘ Call.wait live.pid false) (funext fun waited => ?_)
    exact State.muted_of_eq (live.muted_afterReap waited)
  | lastWait live => exact absurd ordered id
  | readEnd live =>
    refine congrArg (some ∘ Call.clock) (funext fun ended => ?_)
    exact live.muted_close ended
  | acting actions after ih =>
    cases actions with
    | nil => exact ih ordered shut
    | cons action actions =>
      refine congrArg (some ∘ Call.act action) ?_
      exact congrArg (State.acting actions) after.muted_muted
  | finished report => rfl
  | _ => exact absurd shut id

/-- Both runs take the same step, and what they come to is again the same when muted. -/
theorem muted_next? (ordered : s.Ordered) (shut : s.stage.Shut) (event : Event) :
    (s.muted.next? event).map State.muted = (s.next? event).map State.muted := by
  have follows (s : State) : (s.next? event).map State.muted =
      (s.call?.map (·.map State.muted)).bind (·.follow event) := by
    simp only [State.next?, Option.map_bind, Option.bind_map, Function.comp_def, Call.follow_map]
  rw [follows, follows, muted_call ordered shut]

theorem muted_report? (s : State) :
    s.muted.report?.map (·.value) = s.report?.map (·.value) := by
  induction s with
  | acting actions after ih =>
    cases actions with
    | nil => exact ih
    | cons action actions => rfl
  | _ => rfl

/-- Two runs whose input is closed, and which are the same when muted, go through the same events
and end with the same value. -/
theorem replay_muted (ordered : s.Ordered) (shut : s.stage.Shut) (otherOrdered : t.Ordered)
    (otherShut : t.stage.Shut) (same : s.muted = t.muted) (run : s.replay trace = some u) :
    ∃ v, t.replay trace = some v ∧ v.report?.map (·.value) = u.report?.map (·.value) := by
  induction trace generalizing s t with
  | nil =>
    cases run
    exact ⟨t, rfl, by rw [← muted_report? t, ← same, muted_report?]⟩
  | cons event trace ih =>
    obtain ⟨next, step, later⟩ := State.replay_cons.mp run
    have both : (t.next? event).map State.muted = some next.muted := by
      rw [← muted_next? otherOrdered otherShut, ← same, muted_next? ordered shut, step,
        Option.map_some]
    obtain ⟨other, otherStep, sameNext⟩ := Option.map_eq_some_iff.mp both
    obtain ⟨nextOrdered, follows⟩ := next?_stage ordered step
    obtain ⟨otherNextOrdered, otherFollows⟩ := next?_stage otherOrdered otherStep
    obtain ⟨last, ends, value⟩ := ih nextOrdered (follows.shut shut) otherNextOrdered
      (otherFollows.shut otherShut) sameNext.symm later
    exact ⟨last, State.replay_cons.mpr ⟨other, otherStep, ends⟩, value⟩

end Run

end CueFront
