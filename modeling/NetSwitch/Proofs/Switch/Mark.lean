import NetSwitch.Proofs.Switch.Arrival
import NetSwitch.Proofs.Switch.Way
import NetSwitch.Proofs.Mirror.Syscall

/-! The mark of a thread, by which a switch knows that the thread has been moved or could not be
brought back, and what other threads know of it.

What is done to have code run by another thread takes no notice of the mark, and the other thread
starts without one.  So a thread that would be refused itself can still have code run for it, and the
code is given a handle of wherever that thread is.
-/

namespace NetSwitch

open Kernel (Call Descriptor Report)

/-- A machine whose thread is marked as being in a state. -/
def Machine.marked (machine : Machine) (state : SwitchState) : Machine :=
  { machine with thread := { machine.thread with state } }

/-! ### Operations that take no notice of the mark -/

/-- Whether an operation does the same whatever the mark of its thread. -/
def Op.Heedless (op : Op α) : Prop :=
  ∀ state, InStep (fun machine marked : Machine => marked = machine.marked state) Eq op op

namespace Op

variable {op first : Op α} {next : α → Op β} {before after : Machine} {answer : α}

theorem Heedless.ran (heedless : op.Heedless) (state : SwitchState) (ran : op before = (answer, after)) :
    op (before.marked state) = (answer, after.marked state) := by
  obtain ⟨_, _, instead, rfl, rfl⟩ := (heedless state).ran rfl ran
  exact instead

theorem heedless_pure (value : α) : (pure value : Op α).Heedless :=
  fun _ => .pure rfl

theorem heedless_bind (heedless : first.Heedless) (rest : ∀ value, (next value).Heedless) :
    (first >>= next).Heedless := by
  intro state
  apply InStep.bind (heedless state)
  rintro value _ rfl
  exact rest value state

theorem heedless_kernel : Op.kernel.Heedless := by
  rintro state before _ rfl
  exact ⟨rfl, rfl⟩

theorem heedless_modifyKernel (change : Kernel → Kernel) : (modifyKernel change).Heedless := by
  rintro state before _ rfl
  exact ⟨rfl, rfl⟩

theorem heedless_emit (event : Log.Event) : (emit event).Heedless := by
  rintro state before _ rfl
  exact ⟨rfl, rfl⟩

end Op

namespace Syscall

open Op

theorem request_heedless {call : Call} {report : α → Report} {serve : Op (Except Errno α)}
    (serves : serve.Heedless) : (request call report serve).Heedless := by
  have meets : (meetFaults call.kind).Heedless :=
    heedless_bind heedless_kernel fun _ => heedless_bind (heedless_modifyKernel _) fun _ => heedless_pure _
  refine heedless_bind meets fun fault => ?_
  cases fault with
  | some errno =>
      exact heedless_bind (heedless_pure _) fun _ =>
        heedless_bind (heedless_modifyKernel _) fun _ => heedless_pure _
  | none =>
      exact heedless_bind serves fun _ =>
        heedless_bind (heedless_modifyKernel _) fun _ => heedless_pure _

theorem spawn_heedless : spawn.Heedless :=
  request_heedless (heedless_pure _)

theorem dup_heedless (descriptor : Descriptor) : (dup descriptor).Heedless := by
  refine request_heedless (heedless_bind heedless_kernel fun kernel => ?_)
  cases kernel.object? descriptor with
  | none => exact heedless_pure _
  | some object =>
      have allocates : (allocate object).Heedless :=
        heedless_bind heedless_kernel fun _ =>
          heedless_bind (heedless_modifyKernel _) fun _ => heedless_pure _
      exact heedless_bind allocates fun _ => heedless_pure _

theorem close_heedless (descriptor : Descriptor) : (close descriptor).Heedless :=
  heedless_bind heedless_kernel fun _ => heedless_bind (heedless_modifyKernel _) fun _ =>
    request_heedless (heedless_pure _)

end Syscall

namespace Handle

open Op

theorem duplicate_heedless (handle : Handle) : handle.duplicate.Heedless := by
  unfold duplicate
  cases handle.descriptor with
  | error e => exact heedless_pure _
  | ok descriptor =>
      refine heedless_bind (Syscall.dup_heedless descriptor) fun copied => ?_
      rcases copied with errno | copy <;> exact heedless_pure _

theorem drop_heedless (handle : Handle) : handle.drop.Heedless := by
  unfold drop
  cases handle.descriptor? with
  | none => exact heedless_pure _
  | some descriptor =>
      exact heedless_bind (heedless_emit _) fun _ =>
        heedless_bind (Syscall.close_heedless descriptor) fun _ => heedless_pure _

end Handle

namespace Switch

theorem spawnFor_heedless (destination : Handle) : (spawnFor destination).Heedless := by
  refine Op.heedless_bind Syscall.spawn_heedless fun asked => ?_
  rcases asked with errno | ⟨⟩ <;> exact Op.heedless_pure _

/-! ### Having code run by another thread -/

namespace Way

/-- Whether code is run by another thread. -/
def Apart : Way → Prop
  | .onWorker _ => True
  | .detached _ => True
  | .here _ => False
  | .atPath _ => False

/-- Where the code begins, if it is reached. -/
def arrive (way : Way) (machine : Machine) : Option Arrival :=
  match way with
  | .here destination => Switch.arrive destination [] machine
  | .onWorker destination => arriveOnWorker destination machine
  | .detached destination => arriveDetached destination machine
  | .atPath path => arriveAtPath path machine

end Way

variable [OfError ε] [Owns α] {destination : Handle} {body : Body σ π ε α} {way : Way}
variable {before after : Machine} {own rest : σ} {outcome : Outcome π ε α}

theorem runOnWorker_marked (state : SwitchState)
    (ran : runOnWorker destination body (before, own) = (outcome, after, rest)) :
    runOnWorker destination body (before.marked state, own) = (outcome, after.marked state, rest) := by
  rcases runOnWorker_ran.mp ran with ⟨e, spawning, rfl, rfl⟩ | ⟨ready, worker, spawning, ranRun, rfl⟩
  · exact runOnWorker_ran.mpr (.inl ⟨e, (spawnFor_heedless _).ran state spawning, rfl, rfl⟩)
  · have spawns := (spawnFor_heedless _).ran state spawning
    exact runOnWorker_ran.mpr (.inr ⟨_, worker, spawns, ranRun, rfl⟩)

theorem runDetached_marked (state : SwitchState)
    (ran : runDetached destination body (before, own) = (outcome, after, rest)) :
    runDetached destination body (before.marked state, own) = (outcome, after.marked state, rest) := by
  rcases runDetached_ran.mp ran with ⟨e, copying, rfl, rfl⟩ |
    ⟨copy, copied, e, spawned, copying, spawning, dropping, rfl, rfl⟩ |
    ⟨copy, copied, ready, inner, left, closing, worker, copying, spawning, ranRun, ranClose, rfl, rfl⟩
  · exact runDetached_ran.mpr (.inl ⟨e, (Handle.duplicate_heedless _).ran state copying, rfl, rfl⟩)
  · exact runDetached_ran.mpr (.inr (.inl ⟨copy, _, e, _, (Handle.duplicate_heedless _).ran state copying,
      (spawnFor_heedless _).ran state spawning, (Handle.drop_heedless _).ran state dropping, rfl, rfl⟩))
  · exact runDetached_ran.mpr (.inr (.inr ⟨copy, _, _, inner, left, closing, worker,
      (Handle.duplicate_heedless _).ran state copying, (spawnFor_heedless _).ran state spawning, ranRun,
      ranClose, rfl, rfl⟩))

/-- Another thread does the same whatever the mark of the one that waits for it, which keeps its
mark. -/
theorem Way.run_marked (apart : way.Apart) (state : SwitchState)
    (ran : way.run body (before, own) = (outcome, after, rest)) :
    way.run body (before.marked state, own) = (outcome, after.marked state, rest) := by
  cases way with
  | onWorker destination => exact runOnWorker_marked state ran
  | detached destination => exact runDetached_marked state ran
  | here destination => cases apart
  | atPath path => cases apart

/-- Whatever the mark of the thread that waits for another, the code begins where it would. -/
theorem Way.arrive_marked (apart : way.Apart) (state : SwitchState) :
    way.arrive (before.marked state) = way.arrive before := by
  cases way with
  | here destination => cases apart
  | atPath path => cases apart
  | onWorker destination =>
      cases spawning : spawnFor destination before with
      | mk asked ready =>
          have spawns := (spawnFor_heedless destination).ran state spawning
          simp only [Way.arrive, arriveOnWorker, spawning, spawns]
          cases asked <;> rfl
  | detached destination =>
      cases copying : destination.duplicate before with
      | mk made copied =>
          have copies := (Handle.duplicate_heedless destination).ran state copying
          simp only [Way.arrive, arriveDetached, copying, copies]
          cases made with
          | error e => rfl
          | ok copy =>
              cases spawning : spawnFor destination copied with
              | mk asked ready =>
                  have spawns := (spawnFor_heedless destination).ran state spawning
                  simp only [spawning, spawns]
                  cases asked <;> rfl

/-! ### Where the code begins -/

/-- Code is invoked once on arrival, with what is found there, and not at all if it is not reached. -/
def Meets (visits : List (Visit π ε α)) (arrival? : Option Arrival) : Prop :=
  visits.map (fun visit => (visit.home, visit.start)) =
    arrival?.toList.map fun arrival => (arrival.home, arrival.machine)

theorem run_meets (more : List Handle)
    (ran : run destination body (before, own) = (outcome, after, rest)) :
    ∃ visits, run destination body.noted (before, own, []) = (outcome, after, rest, visits) ∧
      Meets visits (arrive destination more before) := by
  rcases run_noted ran with ⟨noted, e, entering, -, -⟩ | ⟨visit, noted, entering, -, -⟩
  · exact ⟨[], noted, by simp [Meets, arrive, entering]⟩
  · exact ⟨[visit], noted, by simp [Meets, arrive, entering]⟩

theorem runOnWorker_meets (ran : runOnWorker destination body (before, own) = (outcome, after, rest)) :
    ∃ visits, runOnWorker destination body.noted (before, own, []) = (outcome, after, rest, visits) ∧
      Meets visits (arriveOnWorker destination before) := by
  rcases runOnWorker_ran.mp ran with ⟨e, spawning, rfl, rfl⟩ | ⟨ready, worker, spawning, ranRun, rfl⟩
  · refine ⟨[], runOnWorker_ran.mpr (.inl ⟨e, spawning, rfl, rfl⟩), ?_⟩
    simp [Meets, arriveOnWorker, spawning]
  · obtain ⟨visits, noted, meets⟩ := run_meets [] ranRun
    refine ⟨visits, runOnWorker_ran.mpr (.inr ⟨ready, worker, spawning, noted, rfl⟩), ?_⟩
    rwa [arriveOnWorker, spawning]

theorem runDetached_meets (ran : runDetached destination body (before, own) = (outcome, after, rest)) :
    ∃ visits, runDetached destination body.noted (before, own, []) = (outcome, after, rest, visits) ∧
      Meets visits (arriveDetached destination before) := by
  rcases runDetached_ran.mp ran with ⟨e, copying, rfl, rfl⟩ |
    ⟨copy, copied, e, spawned, copying, spawning, dropping, rfl, rfl⟩ |
    ⟨copy, copied, ready, inner, left, closing, worker, copying, spawning, ranRun, ranClose, rfl, rfl⟩
  · refine ⟨[], runDetached_ran.mpr (.inl ⟨e, copying, rfl, rfl⟩), ?_⟩
    simp [Meets, arriveDetached, copying]
  · refine ⟨[], runDetached_ran.mpr
      (.inr (.inl ⟨copy, copied, e, spawned, copying, spawning, dropping, rfl, rfl⟩)), ?_⟩
    simp [Meets, arriveDetached, copying, spawning]
  · obtain ⟨visits, noted, meets⟩ := run_meets [copy] ranRun
    refine ⟨visits, runDetached_ran.mpr (.inr (.inr ⟨copy, copied, ready, inner, left, closing, worker,
      copying, spawning, noted, ranClose, rfl, rfl⟩)), ?_⟩
    simpa only [arriveDetached, copying, spawning] using meets

theorem Way.run_meets (apart : way.Apart)
    (ran : way.run body (before, own) = (outcome, after, rest)) :
    ∃ visits, way.run body.noted (before, own, []) = (outcome, after, rest, visits) ∧
      Meets visits (way.arrive before) := by
  cases way with
  | onWorker destination => exact runOnWorker_meets ran
  | detached destination => exact runDetached_meets ran
  | here destination => cases apart
  | atPath path => cases apart

/-- The handle that code is given on arrival is of the namespace in which the thread was. -/
def Arrival.Leaves (arrival : Arrival) (location : String) : Prop :=
  ∃ origin, arrival.home.descriptor? = some origin ∧
    arrival.machine.kernel.network? origin = some location

theorem arrive_leaves {more : List Handle} {arrival : Arrival} {location : String}
    (arrives : arrive destination more before = some arrival) (resolves : before.kernel.ResolvesOwn)
    (placed : before.thread.location = location) : arrival.Leaves location := by
  unfold arrive at arrives
  split at arrives
  · cases arrives
  · rename_i home there entering
    cases arrives
    obtain ⟨target, origin, _, entered⟩ := enter_entered entering
    exact ⟨origin, entered.owns, placed ▸ entered.origin resolves⟩

theorem Way.arrive_leaves {arrival : Arrival} (apart : way.Apart)
    (resolves : before.kernel.ResolvesOwn) (arrives : way.arrive before = some arrival) :
    arrival.Leaves before.thread.location := by
  cases way with
  | here destination => cases apart
  | atPath path => cases apart
  | onWorker destination =>
      simp only [Way.arrive, arriveOnWorker] at arrives
      split at arrives
      · cases arrives
      · rename_i ready spawning
        have quiet := spawnFor_quiet spawning
        have placed : ready.thread.location = before.thread.location := by rw [quiet.thread]
        exact Switch.arrive_leaves arrives (resolves.of_files quiet.files) placed
  | detached destination =>
      simp only [Way.arrive, arriveDetached] at arrives
      split at arrives
      · cases arrives
      · rename_i copy copied copying
        split at arrives
        · cases arrives
        · rename_i ready spawning
          have quiet := spawnFor_quiet spawning
          have files := (Handle.duplicate_calls destination).files copying
          have placed : ready.thread.location = before.thread.location := by
            rw [quiet.thread, (Handle.duplicate_trails copying).thread]
          exact Switch.arrive_leaves arrives (resolves.of_files (quiet.files.trans files)) placed

end Switch

end NetSwitch
