import NetSwitch.Proofs.Plugin.Excursion
import NetSwitch.Proofs.Scenario.Isolation
import NetSwitch.Proofs.Scenario.Steady
import NetSwitch.Proofs.Scenario.Worker
import NetSwitch.Proofs.Switch.Mark
import NetSwitch.Proofs.Switch.Obstacle
import NetSwitch.Proofs.Switch.Refusal

/-! A thread that could not be brought back stays so, and stays where it is.  It makes no switch any
more, but it has others make them: these start without the mark, in the namespace in which the thread
is stuck.
-/

namespace NetSwitch

theorem Plugin.run_tainted {request : Request} {stdin : Bytes} {before after : Machine}
    {answer : Except Error Reply} (tainted : before.thread.state = .tainted)
    (ran : run request stdin before = (answer, after)) : after.thread = before.thread := by
  rcases run_excursion ran with
    ⟨-, alike⟩ | ⟨netns, outcome, noted, left, -, -, -, alike, excursion, last, -⟩
  · exact alike.thread
  rw [last.thread, ← alike.thread]
  cases excursion with
  | unopened e opening => exact (Handle.openPath_trails opening).thread
  | refused e target opened left closed opening entering closing =>
      rw [(Handle.close_trails closing).thread, (Switch.enter_untouched entering).thread,
        (Handle.openPath_trails opening).thread]
  | made target home opened entered left back noted' found restored closed opening entering =>
      obtain ⟨idle, -⟩ := Switch.enter_ok_iff.mp entering
      rw [(Handle.openPath_trails opening).thread, alike.thread] at idle
      cases idle.symm.trans tainted

theorem Switch.Way.run_thread [OfError ε] [Owns α] {way : Way} {body : Body σ π ε α}
    {before after : Machine} {own rest : σ} {outcome : Outcome π ε α} (apart : way.Apart)
    (ran : way.run body (before, own) = (outcome, after, rest)) : after.thread = before.thread := by
  cases way with
  | onWorker destination => exact runOnWorker_thread ran
  | detached destination => exact runDetached_thread ran
  | here destination => cases apart
  | atPath path => cases apart

namespace Scenario

open Switch (Way Meets)

/-! ### Runs of a tainted thread -/

/-- What runs leaves a tainted thread as it is. -/
def Stuck (run : Run V α) : Prop :=
  ∀ ⦃before session value after left⦄, run (before, session) = (value, after, left) →
    before.thread.state = .tainted → before.Unmoved after

section Runs

variable {run : Run V α} {body : Switch.Body (Session V) String (Failure V) (Yield V)}

theorem stuck_of_steady (steady : Steady run) : Stuck run :=
  fun _ _ _ _ _ ran _ => steady ran

theorem stuck_bind {next : α → Run V β} (stuck : Stuck run) (rest : ∀ value, Stuck (next value)) :
    Stuck (run >>= next) := by
  intro before session value after left ran tainted
  obtain ⟨found, ⟨middle, between⟩, ranFirst, ranNext⟩ := Task.bind_ran.mp ran
  have first := stuck ranFirst tainted
  exact first.trans (rest found ranNext (first.state.trans tainted))

theorem run_stuck {destination : Handle} : Stuck (Switch.run destination body) := by
  intro before session value after left ran tainted
  cases (Switch.run_threadTainted tainted).symm.trans ran
  exact .refl _

theorem enterBy_stuck {mode : Mode} {destination : Handle} : Stuck (enterBy mode destination body) := by
  cases mode with
  | here => exact run_stuck
  | onWorker => exact stuck_of_steady runOnWorker_steady
  | detached => exact stuck_of_steady runDetached_steady

theorem runAtPath_stuck {path : Path} : Stuck (Switch.runAtPath path body) := by
  refine stuck_bind (stuck_of_steady (steady_trailing Handle.openPath_trails)) fun opened => ?_
  cases opened with
  | error e => exact stuck_of_steady steady_pure
  | ok destination =>
      refine stuck_bind run_stuck fun outcome => stuck_of_steady (steady_trailing ?_)
      exact fun closing => (Switch.closeAfter_closes closing).1

theorem reactToSwitch_stuck {resume : Bool} {run : Run V (Result V)} (stuck : Stuck run) :
    Stuck (reactToSwitch resume run) := by
  refine stuck_bind (stuck_of_steady setInner_steady) fun _ => stuck_bind stuck fun outcome => ?_
  exact stuck_bind (stuck_of_steady inner_steady) fun _ => stuck_of_steady reactTo_steady

theorem runEntry_stuck {entry : Entry} {resume : Bool} : Stuck (runEntry entry resume body) := by
  cases entry with
  | byPath path => exact reactToSwitch_stuck runAtPath_stuck
  | byHandle mode name =>
      refine stuck_bind (stuck_of_steady steady_registry) fun registry => ?_
      cases registry.slot? name with
      | none => exact stuck_of_steady steady_pure
      | some slot =>
          refine stuck_bind (stuck_of_steady steady_modifyRegistry) fun _ => ?_
          refine stuck_bind (reactToSwitch_stuck enterBy_stuck) fun value => ?_
          exact stuck_bind (stuck_of_steady exchange_steady) fun _ => stuck_of_steady steady_pure

theorem invokePlugin_stuck {request : Plugin.Request} {stdin : Bytes} :
    Stuck (invokePlugin request stdin : Run V _) := by
  refine stuck_bind ?_ fun answer => ?_
  · intro before session value after left ran tainted
    obtain ⟨_, ranPlugin, ⟨⟩⟩ := Task.ofOp_ran.mp ran
    exact .of_thread (Plugin.run_tainted tainted ranPlugin)
  · cases answer <;> exact stuck_of_steady steady_pure

end Runs

theorem Action.run_stuck (action : Action V) (home : Option Handle) : Stuck (action.run home) := by
  cases action with
  | runInside entry program ending resume => exact runEntry_stuck
  | thread program => exact stuck_of_steady (steady_bind onNewThread_steady fun _ => steady_pure)
  | plugin request stdin => exact invokePlugin_stuck
  | _ => exact stuck_of_steady (Action.run_steady _ home trivial)

theorem Program.run_stuck (program : Program V) (home : Option Handle) : Stuck (program.run home) := by
  cases program with
  | done => exact stuck_of_steady steady_pure
  | step strict action rest =>
      refine stuck_bind (action.run_stuck home) fun reaction => ?_
      cases reaction with
      | unwound payload => exact stuck_of_steady steady_pure
      | answered content failure =>
          refine stuck_bind (stuck_of_steady observe_steady) fun answered => ?_
          have rests := rest.run_stuck home
          -- The rest is left out only where a strict step has failed.
          match strict, failure with
          | true, some failure => exact stuck_of_steady steady_pure
          | true, none | false, none | false, some failure =>
              exact stuck_bind rests fun _ => stuck_of_steady steady_pure

/-- A thread that could not be brought back is so for the rest of a program, and stays where it is.
But what it has another thread run is run as if nothing had happened: the outcome and all effects are
those of the same call from a thread that was never moved, the code begins where it would, and the
handle that it is given there is of the namespace in which the first thread is stuck. -/
theorem taint_not_inherited :
    (∀ (program : Program V) (home : Option Handle) {before after : Machine} {session left : Session V}
      {value : List (Answer V) × Flow V}, before.thread.state = .tainted →
      program.run home (before, session) = (value, after, left) →
      after.thread.state = .tainted ∧ after.thread.location = before.thread.location) ∧
    ∀ {σ π ε α : Type} [OfError ε] [Owns α] (way : Way) (body : Switch.Body σ π ε α) (stuck : Machine)
      (own : σ), way.Apart → stuck.thread.state = .tainted → stuck.kernel.ResolvesOwn →
      ∃ outcome after rest visits,
        way.run body (stuck, own) = (outcome, after, rest) ∧
        way.run body (stuck.marked .idle, own) = (outcome, after.marked .idle, rest) ∧
        after.thread = stuck.thread ∧
        way.run body.noted (stuck, own, []) = (outcome, after, rest, visits) ∧
        Meets visits (way.arrive stuck) ∧ way.arrive stuck = way.arrive (stuck.marked .idle) ∧
        ∀ arrival ∈ way.arrive stuck, arrival.Leaves stuck.thread.location := by
  constructor
  · intro program home before after session left value tainted ran
    have unmoved := program.run_stuck home ran tainted
    exact ⟨unmoved.state.trans tainted, unmoved.location⟩
  · intro σ π ε α _ _ way body stuck own apart _ resolves
    cases ran : way.run body (stuck, own) with
    | mk outcome left =>
        obtain ⟨after, rest⟩ := left
        obtain ⟨visits, noted, meets⟩ := Way.run_meets apart ran
        refine ⟨outcome, after, rest, visits, rfl, Way.run_marked apart .idle ran,
          Way.run_thread apart ran, noted, meets, (Way.arrive_marked apart .idle).symm, ?_⟩
        exact fun arrival arrives => Way.arrive_leaves apart resolves arrives

/-- From a thread that is stuck in the host's namespace a worker brings up the neighbour's device. -/
theorem taint_not_inherited_raising :
    let stuck := neighbouring.marked .tainted
    let worker := Way.onWorker neighbour
    let body := raising.body (.value ())
    (raising.run none (stuck, {})).2.1.thread.state = .tainted ∧
      (worker.run body (stuck, {})).1 = .returned (.value ()) ∧
      ∃ outcome after rest visits,
        worker.run body (stuck, {}) = (outcome, after, rest) ∧
        worker.run body (stuck.marked .idle, {}) = (outcome, after.marked .idle, rest) ∧
        after.thread = stuck.thread ∧
        worker.run body.noted (stuck, {}, []) = (outcome, after, rest, visits) ∧
        Meets visits (worker.arrive stuck) ∧ worker.arrive stuck = worker.arrive (stuck.marked .idle) ∧
        ∀ arrival ∈ worker.arrive stuck, arrival.Leaves "host" := by
  intro stuck worker body
  obtain ⟨stays, apart⟩ := taint_not_inherited (V := Unit)
  have tainted : stuck.thread.state = .tainted := rfl
  have ran : raising.run none (stuck, {}) = ((raising.run none (stuck, {})).1,
      (raising.run none (stuck, {})).2.1, (raising.run none (stuck, {})).2.2) := rfl
  refine ⟨(stays raising none tainted ran).1, by decide +kernel, ?_⟩
  exact apart worker body stuck {} trivial rfl (.of_absent (by decide +kernel))

/-- A program that goes into the neighbour's namespace, from which it cannot be moved back, and then
tries to go there again: by a worker, by a worker of its own, and itself. -/
def outrunning : Program Unit :=
  let inside (mode : Mode) : Action Unit :=
    .runInside (.byHandle mode "pod") .done (.value ()) false
  .step false (.openPath (Bytes.ofString "/pod") "pod") <|
    .step false (.arm { kind := .setns, errno := .notPermitted, skip := 1 }) <|
      .step false (inside .here) <| .step false (inside .onWorker) <|
        .step false (inside .detached) <| .step false (inside .here) .done

/-- Whether code was reached inside a namespace, and what came of the switch. -/
def Answer.switch? : Answer V → Option (Bool × Outcome String (Failure V) V)
  | ⟨.ranInside inner outcome, _, _⟩ => some (inner.isSome, outcome)
  | _ => none

/-- Once the move back has failed, only the thread itself is refused. -/
theorem taint_outrun :
    (outrunning.start Plugin.neighboured).1.filterMap Answer.switch? =
      [(true, .failed (.library (.switchFailed .restore (.os .notPermitted)))),
        (true, .returned ()), (true, .returned ()), (false, .failed (.library .threadTainted))] := by
  decide +kernel

end Scenario

end NetSwitch
