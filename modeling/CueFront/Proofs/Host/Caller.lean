import CueFront.Proofs.Host.Child

/-!
# The side of the front end

The front end holds, at descriptors from three on, what its runs hold, each descriptor for one
run and none of them to survive an exec (`CallerSide`).  `Affects` says what an event of a run
does to these descriptors, and `CallerSide.step` that the run then gets on with its own.
-/

namespace CueFront

namespace Host

open Run (State)

variable {made more : List Made} {holds later : Holding} {run index : Nat} {one : Made}
  {target : Descriptor} {source : Source} {activity : Activity}

/-! ## One more pipe -/

theorem Fits.mono (fits : Fits made run target source) (grown : ∀ one ∈ made, one ∈ more) :
    Fits more run target source :=
  fits.imp_right fun ⟨one, member, same⟩ => ⟨one, grown one member, same⟩

/-- Nobody holds an end of the pipe. -/
def Unheld (holds : Holding) (one : Made) : Prop :=
  ∀ descriptor source closeOnExec, holds descriptor source closeOnExec →
    source.pipe? ≠ some one.number

/-- A pipe that a child holds no end of does not matter to it. -/
theorem Redirecting.grow {rest : List (Descriptor × Descriptor)} (unheld : Unheld holds one)
    (before : Redirecting made holds run rest) : Redirecting (one :: made) holds run rest := by
  refine ⟨?_, ?_, ?_⟩
  · rintro descriptor source kept held other (_ | ⟨_, member⟩) ends
    · exact absurd ends (unheld _ _ _ held)
    · exact before.held _ _ _ held other member ends
  · intro redirect member
    obtain ⟨low, high, source, held, fits⟩ := before.waiting redirect member
    exact ⟨low, high, source, held, fits.mono fun _ => List.mem_cons_of_mem _⟩
  · intro target low settled
    obtain ⟨source, held, fits⟩ := before.placed target low settled
    exact ⟨source, held, fits.mono fun _ => List.mem_cons_of_mem _⟩

/-- A pipe that a process holds no end of does not matter to what it may hold. -/
theorem Standing.Allows.grow {standing : Standing} (unheld : Unheld holds one)
    (before : standing.Allows made holds activity) :
    standing.Allows (one :: made) holds activity := by
  cases standing with
  | outside =>
    rintro descriptor source kept held other (_ | ⟨_, member⟩)
    · exact unheld _ _ _ held
    · exact before _ _ _ held other member
  | preparing run =>
    cases before with
    | forked plan on => exact .forked plan (on.grow unheld)
    | grouped plan on => exact .grouped plan (on.grow unheld)
    | redirecting plan rest on => exact .redirecting plan rest (on.grow unheld)
    | lost lost held =>
      refine .lost lost ?_
      rintro descriptor source kept there other (_ | ⟨_, member⟩) ends
      · exact absurd ends (unheld _ _ _ there)
      · exact held _ _ _ there other member ends
  | started run =>
    refine ⟨?_, fun target low => ?_⟩
    · rintro descriptor source kept held other (_ | ⟨_, member⟩) ends
      · exact absurd ends (unheld _ _ _ held)
      · exact before.1 _ _ _ held other member ends
    · obtain ⟨source, held, fits⟩ := before.2 target low
      exact ⟨source, held, fits.mono fun _ => List.mem_cons_of_mem _⟩
  | working run =>
    rintro descriptor source kept held other (_ | ⟨_, member⟩) ends
    · exact absurd ends (unheld _ _ _ held)
    · exact before _ _ _ held other member ends
  | intruding => trivial

/-! ## The side of the front end -/

/-- A source belongs to a run: an end of one of its pipes, or the null device. -/
def Own (made : List Made) (run : Nat) (source : Source) : Prop :=
  source = .device .null ∨ ∃ one ∈ made, one.run = run ∧ source.pipe? = some one.number

theorem Own.mono (own : Own made run source) (grown : ∀ one ∈ made, one ∈ more) :
    Own more run source :=
  own.imp_right fun ⟨one, member, same⟩ => ⟨one, grown one member, same⟩

/-- What the front end holds for its runs. -/
structure CallerSide (made : List Made) (runs : List State) (holds : Holding) : Prop where
  /-- What a run holds is its own and does not survive an exec. -/
  held : ∀ (index : Nat) (state : State), runs[index]? = some state → ∀ descriptor ∈ state.holds,
    3 ≤ descriptor ∧ ∃ source, holds descriptor source true ∧ Own made index source
  /-- What is wired fits. -/
  wired : ∀ (index : Nat) (state : State), runs[index]? = some state → ∀ redirect ∈ state.wired,
    ∃ source, holds redirect.2 source true ∧ Fits made index redirect.1 source
  /-- An end of a run's pipe is held by the run. -/
  owned : ∀ one ∈ made, ∀ descriptor source closeOnExec, holds descriptor source closeOnExec →
    source.pipe? = some one.number → closeOnExec = true ∧
      ∃ state : State, runs[one.run]? = some state ∧ descriptor ∈ state.holds
  /-- No run holds a descriptor twice. -/
  single : ∀ (index : Nat) (state : State), runs[index]? = some state → state.holds.Nodup
  /-- No two runs hold the same descriptor. -/
  apart : ∀ (index other : Nat) (state state' : State), runs[index]? = some state →
    runs[other]? = some state' → ∀ descriptor ∈ state.holds, descriptor ∈ state'.holds →
      index = other
  /-- The standard descriptors are open. -/
  standard : ∀ descriptor < 3, ∃ source closeOnExec, holds descriptor source closeOnExec

/-- What an event does to the descriptors of the front end for one of its runs. -/
structure Affects (made more : List Made) (holds later : Holding) (index : Nat) (event : Event)
    (line : Option Line) : Prop where
  /-- No pipe is forgotten. -/
  grown : ∀ one ∈ made, one ∈ more
  /-- A new pipe is one of the run, and nobody had it. -/
  fresh : ∀ one ∈ more, one ∈ made ∨ one.run = index ∧ Unheld holds one
  /-- What is not closed is kept. -/
  kept : ∀ descriptor source closeOnExec, descriptor ∉ event.closed →
    holds descriptor source closeOnExec → later descriptor source closeOnExec
  /-- What is there was kept or is opened. -/
  origin : ∀ descriptor source closeOnExec, later descriptor source closeOnExec →
    holds descriptor source closeOnExec ∧ descriptor ∉ event.closed ∨
      descriptor ∈ event.opened ∧ closeOnExec = true ∧
        ∀ one ∈ more, source.pipe? = some one.number → one.run = index
  /-- What is opened was free, and is the run's own. -/
  opened : ∀ descriptor ∈ event.opened,
    (∀ source closeOnExec, ¬ holds descriptor source closeOnExec) ∧
      ∃ source, later descriptor source true ∧ Own more index source
  /-- It is opened once. -/
  distinct : event.opened.Nodup
  /-- What is opened for the child fits. -/
  wires : ∀ redirect, Run.Wires line event redirect →
    ∃ source, later redirect.2 source true ∧ Fits more index redirect.1 source

section Step

variable {runs : List State} {state next : State} {event : Event}

theorem getElem?_set_cases {other : Nat} {state' : State}
    (there : (runs.set index next)[other]? = some state') :
    other = index ∧ state' = next ∨ other ≠ index ∧ runs[other]? = some state' := by
  rw [List.getElem?_set] at there
  split at there
  · next same =>
    split at there
    · exact .inl ⟨same.symm, (Option.some.inj there).symm⟩
    · cases there
  · next apart => exact .inr ⟨fun same => apart same.symm, there⟩

namespace CallerSide

/-- What is opened was free, so no run holds it already. -/
theorem free {line : Option Line} (side : CallerSide made runs holds)
    (affects : Affects made more holds later index event line) {other : Nat} {state' : State}
    (there : runs[other]? = some state') :
    ∀ descriptor ∈ state'.holds, descriptor ∉ event.opened := by
  intro descriptor held opens
  obtain ⟨-, source, holds, -⟩ := side.held other state' there descriptor held
  exact (affects.opened descriptor opens).1 _ _ holds

/-- No run closes what another holds. -/
theorem unclosed (side : CallerSide made runs holds) (here : runs[index]? = some state)
    (moves : Run.Moves state event next) {other : Nat} {state' : State} (apart : other ≠ index)
    (there : runs[other]? = some state') :
    ∀ descriptor ∈ state'.holds, descriptor ∉ event.closed :=
  fun descriptor held closed =>
    apart (side.apart _ _ _ _ there here descriptor held (moves.closes descriptor closed))

section Step

variable (side : CallerSide made runs holds) (here : runs[index]? = some state)
  (moves : Run.Moves state event next) {line : Option Line}
  (affects : Affects made more holds later index event line)

include side here moves affects

/-- After a step every run holds what it says it holds, on descriptors that do not survive an
exec. -/
theorem held_step {other : Nat} {state' : State}
    (there : (runs.set index next)[other]? = some state') :
    ∀ descriptor ∈ state'.holds,
      3 ≤ descriptor ∧ ∃ source, later descriptor source true ∧ Own more other source := by
  intro descriptor held
  rcases getElem?_set_cases there with ⟨rfl, rfl⟩ | ⟨apart, there⟩
  · obtain ⟨unclosed, opens | held⟩ := moves.origin descriptor held
    · obtain ⟨free, source, holds, own⟩ := affects.opened descriptor opens
      refine ⟨Nat.not_lt.mp fun low => ?_, source, holds, own⟩
      obtain ⟨source, kept, there⟩ := side.standard descriptor low
      exact free _ _ there
    · obtain ⟨high, source, there, own⟩ := side.held _ _ here descriptor held
      exact ⟨high, source, affects.kept _ _ _ unclosed there, own.mono affects.grown⟩
  · obtain ⟨high, source, holds, own⟩ := side.held _ _ there descriptor held
    have unclosed := side.unclosed here moves apart there descriptor held
    exact ⟨high, source, affects.kept _ _ _ unclosed holds, own.mono affects.grown⟩

/-- After a step every end of a pipe in the front end is on record with the run of the pipe. -/
theorem owned_step {one : Made} (member : one ∈ more) {descriptor : Descriptor} {source : Source}
    {closeOnExec : Bool} (held : later descriptor source closeOnExec)
    (ends : source.pipe? = some one.number) :
    closeOnExec = true ∧
      ∃ state' : State, (runs.set index next)[one.run]? = some state' ∧
        descriptor ∈ state'.holds := by
  have now : (runs.set index next)[index]? = some next := by
    obtain ⟨inside, -⟩ := List.getElem?_eq_some_iff.mp here
    rw [List.getElem?_set_self inside]
  rcases affects.origin _ _ _ held with ⟨before, unclosed⟩ | ⟨opens, rfl, own⟩
  · have old : one ∈ made := by
      rcases affects.fresh one member with old | ⟨-, unheld⟩
      · exact old
      · exact absurd ends (unheld _ _ _ before)
    obtain ⟨flag, state', there, held'⟩ := side.owned one old _ _ _ before ends
    refine ⟨flag, ?_⟩
    by_cases same : one.run = index
    · rw [same, here] at there
      cases there
      exact ⟨next, same ▸ now, moves.keeps descriptor unclosed (.inr held')⟩
    · exact ⟨state', by rw [List.getElem?_set_ne (Ne.symm same), there], held'⟩
  · have unclosed : descriptor ∉ event.closed := by
      rcases Run.closed_or_opened event with none | none
      · simp [none]
      · simp [none] at opens
    exact ⟨rfl, next, own one member ends ▸ now, moves.keeps descriptor unclosed (.inl opens)⟩

/-- After a step no two runs hold one descriptor. -/
theorem apart_step {first second : Nat} {state' state'' : State}
    (there : (runs.set index next)[first]? = some state')
    (there' : (runs.set index next)[second]? = some state'') :
    ∀ descriptor ∈ state'.holds, descriptor ∈ state''.holds → first = second := by
  have disjoint {other : Nat} {state' : State} (there : runs[other]? = some state') :
      ∀ descriptor ∈ next.holds, descriptor ∈ state'.holds → index = other := by
    intro descriptor held held'
    obtain ⟨-, opens | before⟩ := moves.origin descriptor held
    · exact absurd opens (side.free affects there descriptor held')
    · exact side.apart _ _ _ _ here there descriptor before held'
  intro descriptor held held'
  rcases getElem?_set_cases there with ⟨rfl, rfl⟩ | ⟨-, before⟩
  · rcases getElem?_set_cases there' with ⟨rfl, -⟩ | ⟨-, before'⟩
    · rfl
    · exact disjoint before' descriptor held held'
  · rcases getElem?_set_cases there' with ⟨rfl, rfl⟩ | ⟨-, before'⟩
    · exact (disjoint before descriptor held' held).symm
    · exact side.apart _ _ _ _ before before' descriptor held held'

end Step

/-- A run gets on with its own, and the others keep theirs. -/
theorem step (side : CallerSide made runs holds) (here : runs[index]? = some state)
    (ordered : state.Ordered) (step : state.next? event = some next)
    (affects : Affects made more holds later index event state.line?) :
    CallerSide more (runs.set index next) later := by
  have moves := Run.moves_of_step ordered step (side.single _ _ here) affects.distinct
    (side.free affects here)
  refine ⟨?_, ?_, ?_, ?_, ?_, ?_⟩
  · exact fun other state' there => side.held_step here moves affects there
  · intro other state' there redirect wired
    have holds := State.holds_of_wired wired
    rcases getElem?_set_cases there with ⟨rfl, rfl⟩ | ⟨apart, there⟩
    · rcases Run.wired_step ordered step wired with old | new
      · obtain ⟨source, there, fits⟩ := side.wired _ _ here redirect old
        exact ⟨source, affects.kept _ _ _ (moves.origin _ holds).1 there, fits.mono affects.grown⟩
      · exact affects.wires redirect new
    · obtain ⟨source, held, fits⟩ := side.wired _ _ there redirect wired
      have unclosed := side.unclosed here moves apart there _ holds
      exact ⟨source, affects.kept _ _ _ unclosed held, fits.mono affects.grown⟩
  · exact fun one member _ _ _ held => side.owned_step here moves affects member held
  · intro other state' there
    rcases getElem?_set_cases there with ⟨rfl, rfl⟩ | ⟨-, there⟩
    · exact moves.single
    · exact side.single _ _ there
  · exact fun _ _ _ _ there there' => side.apart_step here moves affects there there'
  · intro descriptor low
    obtain ⟨source, kept, there⟩ := side.standard descriptor low
    refine ⟨source, kept, affects.kept _ _ _ (fun closed => ?_) there⟩
    exact Nat.not_le.mpr low (side.held _ _ here _ (moves.closes descriptor closed)).1

end CallerSide

end Step

/-! ## What the calls of a run do -/

section Affects

variable {line : Option Line} {event : Event} {descriptor reading writing : Descriptor}

/-- Only an event that opens something gives a descriptor for the child. -/
theorem opened_of_wires {redirect : Descriptor × Descriptor}
    (wires : Run.Wires line event redirect) : event.opened ≠ [] := by
  cases event with
  | openNull opened =>
    cases opened with
    | ok descriptor => exact List.cons_ne_nil _ _
    | error errno => cases wires
  | pipe opened =>
    cases opened with
    | ok ends => exact List.cons_ne_nil _ _
    | error errno => cases wires
  | _ => cases wires

/-- Nothing is opened or closed. -/
theorem affects_still (opened : event.opened = []) (closed : event.closed = []) :
    Affects made made holds holds index event line where
  grown _ := id
  fresh _ := .inl
  kept _ _ _ _ held := held
  origin _ _ _ held := .inl ⟨held, by simp [closed]⟩
  opened := by simp [opened]
  distinct := by simp [opened]
  wires _ wires := absurd opened (opened_of_wires wires)

theorem affects_close
    (changed : ∀ other source closeOnExec, later other source closeOnExec ↔
      other ≠ descriptor ∧ holds other source closeOnExec) :
    Affects made made holds later index (.act (.close descriptor)) line where
  grown _ := id
  fresh _ := .inl
  kept _ _ _ unclosed held :=
    (changed _ _ _).mpr ⟨fun same => unclosed (List.mem_singleton.mpr same), held⟩
  origin _ _ _ held :=
    .inl ⟨((changed _ _ _).mp held).2, fun closed =>
      ((changed _ _ _).mp held).1 (List.mem_singleton.mp closed)⟩
  opened := nofun
  distinct := List.nodup_nil
  wires _ wires := absurd rfl (opened_of_wires wires)

/-- A run opens the null device.  The descriptor was free, so it is no one else's. -/
theorem affects_openNull (free : ∀ source closeOnExec, ¬ holds descriptor source closeOnExec)
    (changed : ∀ other source closeOnExec, later other source closeOnExec ↔
      other = descriptor ∧ source = .device .null ∧ closeOnExec = true ∨
        holds other source closeOnExec) :
    Affects made made holds later index (.openNull (.ok descriptor)) line where
  grown _ := id
  fresh _ := .inl
  kept _ _ _ _ held := (changed _ _ _).mpr (.inr held)
  origin _ _ _ held := by
    rcases (changed _ _ _).mp held with ⟨rfl, rfl, rfl⟩ | before
    · exact .inr ⟨List.mem_singleton.mpr rfl, rfl, nofun⟩
    · exact .inl ⟨before, List.not_mem_nil⟩
  opened _ opens := by
    cases List.mem_singleton.mp opens
    exact ⟨free, _, (changed _ _ _).mpr (.inl ⟨rfl, rfl, rfl⟩), .inl rfl⟩
  distinct := List.nodup_singleton _
  wires _ wires := by
    cases (wires : _ = _)
    exact ⟨_, (changed _ _ _).mpr (.inl ⟨rfl, rfl, rfl⟩), .inl ⟨rfl, rfl⟩⟩

/-- A run makes a pipe for a line.  Both descriptors were free, and an end of the new pipe is an end
of no other. -/
theorem affects_pipe {number : Nat} {line : Line} (apart : reading ≠ writing)
    (freeReading : ∀ source closeOnExec, ¬ holds reading source closeOnExec)
    (freeWriting : ∀ source closeOnExec, ¬ holds writing source closeOnExec)
    (unheld : Unheld holds ⟨number, index, line⟩) (unmade : ∀ one ∈ made, one.number ≠ number)
    (changed : ∀ descriptor source closeOnExec, later descriptor source closeOnExec ↔
      descriptor = reading ∧ source = .pipeReader number ∧ closeOnExec = true ∨
        descriptor = writing ∧ source = .pipeWriter number ∧ closeOnExec = true ∨
          holds descriptor source closeOnExec) :
    Affects made (⟨number, index, line⟩ :: made) holds later index (.pipe (.ok (reading, writing)))
      (some line) := by
  have first : later reading (.pipeReader number) true :=
    (changed _ _ _).mpr (.inl ⟨rfl, rfl, rfl⟩)
  have second : later writing (.pipeWriter number) true :=
    (changed _ _ _).mpr (.inr (.inl ⟨rfl, rfl, rfl⟩))
  have own {source : Source} (pipe : source.pipe? = some number) :
      ∀ one ∈ (⟨number, index, line⟩ :: made : List Made), source.pipe? = some one.number →
        one.run = index := by
    rintro one (_ | ⟨_, member⟩) ends
    · rfl
    · exact absurd (Option.some.inj (ends.symm.trans pipe)) (unmade one member)
  refine ⟨fun _ => List.mem_cons_of_mem _, ?_, ?_, ?_, ?_, ?_, ?_⟩
  · rintro one (_ | ⟨_, member⟩)
    · exact .inr ⟨rfl, unheld⟩
    · exact .inl member
  · exact fun _ _ _ _ held => (changed _ _ _).mpr (.inr (.inr held))
  · intro descriptor source kept held
    rcases (changed _ _ _).mp held with ⟨rfl, rfl, rfl⟩ | ⟨rfl, rfl, rfl⟩ | before
    · exact .inr ⟨by simp [Event.opened], rfl, own rfl⟩
    · exact .inr ⟨by simp [Event.opened], rfl, own rfl⟩
    · exact .inl ⟨before, List.not_mem_nil⟩
  · intro descriptor opens
    simp only [Event.opened, List.mem_cons, List.not_mem_nil, or_false] at opens
    rcases opens with rfl | rfl
    · exact ⟨freeWriting, _, second, .inr ⟨_, List.mem_cons_self, rfl, rfl⟩⟩
    · exact ⟨freeReading, _, first, .inr ⟨_, List.mem_cons_self, rfl, rfl⟩⟩
  · simpa [Event.opened] using apart.symm
  · intro redirect wires
    cases line with
    | input =>
      cases (wires : _ = _)
      exact ⟨_, first, .inr ⟨_, List.mem_cons_self, rfl, rfl⟩⟩
    | output | errors =>
      cases (wires : _ = _)
      exact ⟨_, second, .inr ⟨_, List.mem_cons_self, rfl, rfl⟩⟩
    | report => cases (wires : _ = _)

end Affects

/-! ## The child of a run -/

/-- A child that is forked has all that it has to put in place. -/
theorem CallerSide.redirecting {runs : List State} {state : State} {plan : ChildPlan}
    (side : CallerSide made runs holds) (here : runs[index]? = some state)
    (wired : state.wired = plan.redirects) : Redirecting made holds index plan.redirects := by
  refine ⟨?_, ?_, ?_⟩
  · intro descriptor source kept held one member ends
    exact .inl (side.owned one member _ _ _ held ends).1
  · intro redirect waiting
    obtain ⟨source, held, fits⟩ := side.wired _ _ here redirect (wired ▸ waiting)
    refine ⟨?_, ?_, source, held, fits⟩
    · simp only [ChildPlan.redirects, List.mem_cons, List.not_mem_nil, or_false] at waiting
      rcases waiting with rfl | rfl | rfl <;> simp
    · exact (side.held _ _ here _ (State.holds_of_wired (wired ▸ waiting))).1
  · intro target low settled
    match target, low with
    | 0, _ | 1, _ | 2, _ => simp [ChildPlan.redirects] at settled

end Host

end CueFront
