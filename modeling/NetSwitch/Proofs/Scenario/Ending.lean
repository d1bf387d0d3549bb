import NetSwitch.Proofs.Scenario.Run
import NetSwitch.Proofs.Switch.Exit

/-! Programs that are run inside a namespace and differ in how they end.

A panic that is caught leaves the machine and the handles as a value or a failure does: only the answer
tells that there was one.
-/

namespace NetSwitch.Scenario

open Switch (Way Body)

/-- What a running program leaves, whatever it has logged. -/
def Alike (state state' : Machine × Session V) : Prop :=
  state.1.Alike state'.1 ∧ state'.2 = state.2

/-- The ending that comes to something without opening a handle. -/
def Ending.of : Outcome String (Failure V) V → Ending V
  | .returned given => .value given
  | .failed error => .failure error
  | .unwound payload => .panic payload

/-- The way in which code inside the namespace of a handle is run. -/
def Mode.way (mode : Mode) (destination : Handle) : Way :=
  match mode with
  | .here => .here destination
  | .onWorker => .onWorker destination
  | .detached => .detached destination

section

variable {before after : Machine} {session left : Session V} {first second : Run V (Result V)}
variable {body other : Body (Session V) String (Failure V) (Yield V)}
variable {state : Machine × Session V} {result : Result V} {value : Reaction V}

theorem enterBy_way (mode : Mode) (destination : Handle) :
    enterBy mode destination body = (mode.way destination).run body := by
  cases mode <;> rfl

/-- A program that ends without opening a handle hands none on, and does nothing in ending. -/
theorem conclude_of (last : Outcome String (Failure V) V) (flow : Flow V) :
    ∃ result : Result V, conclude (.of last) flow = pure result ∧ Owns.handles result = [] := by
  cases flow with
  | failed failure => exact ⟨_, rfl, rfl⟩
  | unwound payload => exact ⟨_, rfl, rfl⟩
  | returned _ => cases last <;> exact ⟨_, rfl, rfl⟩

theorem programBody_of {last : Outcome String (Failure V) V} {run : Handle → Run V (List (Answer V) × Flow V)}
    {home : Handle} (ran : programBody (.of last) run home (before, session) = (result, after, left)) :
    (∃ answers flow there, run home (before, session) = ((answers, flow), after, there) ∧
      left = { there with inner := some answers }) ∧ Owns.handles result = [] := by
  obtain ⟨answers, flow, finish, there, ranRun, concluding, rfl⟩ := programBody_ran ran
  obtain ⟨concluded, same, bare⟩ := conclude_of last flow
  rw [same] at concluding
  cases concluding
  exact ⟨⟨answers, flow, there, ranRun, rfl⟩, bare⟩

theorem programBody_same (first second : Outcome String (Failure V) V)
    (run : Handle → Run V (List (Answer V) × Flow V)) :
    Body.Same (programBody (.of first) run) (programBody (.of second) run) where
  left home state := by
    obtain ⟨before, session⟩ := state
    cases ran : programBody (.of first) run home (before, session) with
    | mk result state =>
    cases ranToo : programBody (.of second) run home (before, session) with
    | mk result' state' =>
    obtain ⟨⟨answers, flow, there, ranRun, kept⟩, -⟩ := programBody_of ran
    obtain ⟨⟨answers', flow', there', ranRun', kept'⟩, -⟩ := programBody_of ranToo
    obtain ⟨after, left⟩ := state
    obtain ⟨after', left'⟩ := state'
    cases ranRun.symm.trans ranRun'
    exact Prod.ext rfl (kept.trans kept'.symm)
  bare home state := (programBody_of rfl).2
  bareToo home state := (programBody_of rfl).2

/-! ### What is made of the outcome -/

/-- A panic that is not raised again is noted, as a value is. -/
theorem reactTo_bare {inner : Option (List (Answer V))} (bare : Owns.handles result = []) :
    (reactTo false inner result state).2 = state := by
  rcases result with (given | ⟨handle, name⟩) | failure | payload
  · rfl
  · cases bare
  · rfl
  · rfl

theorem reactToSwitch_bare
    (bare : Owns.handles (first (before, { session with inner := none })).1 = []) :
    (reactToSwitch false first (before, session)).2 = (first (before, { session with inner := none })).2 := by
  change (reactTo false _ (first (before, { session with inner := none })).1
    (first (before, { session with inner := none })).2).2 = _
  exact reactTo_bare bare

theorem ofOp_alike {op : Op α} (blind : op.Blind) : InStep Alike Eq (Task.ofOp op : Run V α) (Task.ofOp op) := by
  rintro ⟨machine, session⟩ ⟨machine', _⟩ ⟨machines, rfl⟩
  obtain ⟨same, left⟩ := blind machine machine' machines
  exact ⟨same.symm, left, rfl⟩

theorem exchange_alike (change : Registry → Option Handle × Registry) :
    InStep Alike Eq (exchange change : Run V Unit) (exchange change) := by
  have reads : InStep Alike Eq (Run.registry : Run V Registry) Run.registry := by
    rintro ⟨machine, session⟩ ⟨machine', _⟩ ⟨machines, rfl⟩
    exact ⟨rfl, machines, rfl⟩
  have writes (exchanged : Registry) : InStep Alike Eq (Run.modifyRegistry fun _ => exchanged : Run V Unit)
      (Run.modifyRegistry fun _ => exchanged) := by
    rintro ⟨machine, session⟩ ⟨machine', _⟩ ⟨machines, rfl⟩
    exact ⟨rfl, machines, rfl⟩
  refine .bind reads fun registry _ same => ?_
  subst same
  obtain ⟨released, exchanged⟩ := change registry
  refine .bind (writes exchanged) fun _ _ _ => ?_
  cases released with
  | none => exact .pure rfl
  | some handle => exact ofOp_alike handle.drop_blind

/-- Two runs that leave states of which only the logs differ, and hand nothing on. -/
structure Parallel (first second : Run V (Result V)) (state : Machine × Session V) : Prop where
  alike : Alike (first state).2 (second state).2
  bare : Owns.handles (first state).1 = []
  bareToo : Owns.handles (second state).1 = []

theorem run_parallel (same : Body.Same body other) (way : Way) (state : Machine × Session V) :
    Parallel (way.run body) (way.run other) state := by
  obtain ⟨before, session⟩ := state
  obtain ⟨outcome, outcome', after, after', rest, -, -, ran, ranToo, -, -, alike, -⟩ :=
    way.run_twins same before session
  refine ⟨?_, ?_, ?_⟩
  · rw [ran, ranToo]
    exact ⟨alike, rfl⟩
  · rw [ran]
    exact Way.run_bare same.bare ran
  · rw [ranToo]
    exact Way.run_bare same.bareToo ranToo

theorem reactToSwitch_alike (parallel : Parallel first second (before, { session with inner := none })) :
    Alike (reactToSwitch false first (before, session)).2 (reactToSwitch false second (before, session)).2 := by
  rw [reactToSwitch_bare parallel.bare, reactToSwitch_bare parallel.bareToo]
  exact parallel.alike

theorem withSlot_alike {name : String} {use use' : Slot → Run V (Reaction V)}
    (uses : ∀ slot, Alike (use slot (before, session)).2 (use' slot (before, session)).2) :
    Alike (withSlot name use (before, session)).2 (withSlot name use' (before, session)).2 := by
  have ran : ∀ use : Slot → Run V (Reaction V), withSlot name use (before, session) =
      (session.registry.slot? name).elim (.answered .noHandle none, before, session)
        fun slot => use slot (before, session) := by
    intro use
    refine Task.bind_ran.mpr ⟨session.registry, (before, session), rfl, ?_⟩
    cases session.registry.slot? name <;> rfl
  rw [ran, ran]
  cases session.registry.slot? name with
  | none => exact ⟨.refl _, rfl⟩
  | some slot => exact uses slot

theorem runEntry_alike (same : Body.Same body other) (entry : Entry) (state : Machine × Session V) :
    Alike (runEntry entry false body state).2 (runEntry entry false other state).2 := by
  obtain ⟨before, session⟩ := state
  cases entry with
  | byPath path => exact reactToSwitch_alike (run_parallel same (.atPath path) _)
  | byHandle mode name =>
      simp only [runEntry, enterBy_way]
      refine withSlot_alike fun slot => ?_
      refine (exchange_alike (·.takeBack slot.key) ?_).2
      exact reactToSwitch_alike (run_parallel same (mode.way slot.handle) _)

end

/-- Whether code inside a namespace ends by returning, by failing or by a panic that is caught does not
matter for anything but what is answered. -/
theorem ends_alike {σ π ε V : Type} [OfError ε] :
    (∀ (way : Way) (steps : Handle → Task σ (Outcome π ε Unit)) (first second : Outcome π ε Unit)
        (before : Machine) (own : σ),
      way.Twins (Body.ending steps first) (Body.ending steps second) before own) ∧
    ∀ (entry : Entry) (program : Program V) (first second : Outcome String (Failure V) V)
      (home : Option Handle) (state : Machine × Session V),
      Alike ((Action.runInside entry program (.of first) false).run home state).2
        ((Action.runInside entry program (.of second) false).run home state).2 := by
  constructor
  · intro way steps first second before own
    exact way.run_twins (Body.ending_same steps first second) before own
  · intro entry program first second home state
    exact runEntry_alike (programBody_same first second _) entry state

end NetSwitch.Scenario
