import NetSwitch.Proofs.Switch.Passage
import NetSwitch.Switch

/-! The steps that the ways of running code inside a namespace consist of. -/

namespace NetSwitch

/-! ### Running one task after another -/

namespace Task

variable {first : Task σ α} {next : α → Task σ β} {before after : Machine × σ} {value : β}

theorem bind_ran : (first >>= next) before = (value, after) ↔
    ∃ found middle, first before = (found, middle) ∧ next found middle = (value, after) :=
  ⟨fun ran => ⟨_, _, rfl, ran⟩, fun ⟨_, _, ranFirst, ranNext⟩ => by
    change next (first before).1 (first before).2 = _
    rw [ranFirst]
    exact ranNext⟩

theorem ofOp_ran {op : Op β} {machine : Machine} {own : σ} :
    ofOp op (machine, own) = (value, after) ↔
      ∃ left, op machine = (value, left) ∧ after = (left, own) := by
  constructor
  · intro ran
    cases ran
    exact ⟨_, rfl, rfl⟩
  · intro steps
    obtain ⟨left, ran, rfl⟩ := steps
    simp only [ofOp, ran]

/-- The thread that waits goes on in the machine that the worker has left. -/
theorem onNewThread_ran {task : Task σ β} {machine after : Machine} {own rest : σ}
    (ran : onNewThread task (machine, own) = (value, after, rest)) :
    ∃ worker, task ({ machine with thread := machine.thread.spawned }, own) = (value, worker, rest) ∧
      after = { worker with thread := machine.thread } := by
  cases ran
  exact ⟨_, rfl, rfl⟩

end Task

namespace Switch

variable [OfError ε] [Owns α] {destination : Handle} {path : Path} {body : Body σ π ε α}
variable {before after : Machine} {own rest : σ} {outcome : Outcome π ε α}

theorem run_ran : run destination body (before, own) = (outcome, after, rest) ↔
    (∃ e, enter destination before = (.error e, after) ∧ outcome = .failed (OfError.ofError e) ∧
      rest = own) ∨
    ∃ home entered inner left, enter destination before = (.ok home, entered) ∧
      body home (entered, own) = (inner, left, rest) ∧ leave home inner left = (outcome, after) := by
  constructor
  · intro ran
    obtain ⟨found, ⟨entered, _⟩, ranEnter, ranRest⟩ := Task.bind_ran.mp ran
    obtain ⟨_, entering, ⟨⟩⟩ := Task.ofOp_ran.mp ranEnter
    rcases found with e | home
    · cases ranRest
      exact .inl ⟨e, entering, rfl, rfl⟩
    · obtain ⟨inner, ⟨left, _⟩, ranBody, ranLeave⟩ := Task.bind_ran.mp ranRest
      obtain ⟨_, leaving, ⟨⟩⟩ := Task.ofOp_ran.mp ranLeave
      exact .inr ⟨home, entered, inner, left, entering, ranBody, leaving⟩
  · intro steps
    rcases steps with ⟨e, entering, rfl, rfl⟩ | ⟨home, entered, inner, left, entering, ranBody, leaving⟩
    · exact Task.bind_ran.mpr ⟨_, _, Task.ofOp_ran.mpr ⟨_, entering, rfl⟩, rfl⟩
    · refine Task.bind_ran.mpr ⟨_, _, Task.ofOp_ran.mpr ⟨_, entering, rfl⟩, ?_⟩
      refine Task.bind_ran.mpr ⟨_, _, ranBody, ?_⟩
      exact Task.ofOp_ran.mpr ⟨_, leaving, rfl⟩

theorem runOnWorker_ran : runOnWorker destination body (before, own) = (outcome, after, rest) ↔
    (∃ e, spawnFor destination before = (.error e, after) ∧
      outcome = .failed (OfError.ofError e) ∧ rest = own) ∨
    ∃ ready worker, spawnFor destination before = (.ok (), ready) ∧
      run destination body ({ ready with thread := ready.thread.spawned }, own) =
        (outcome, worker, rest) ∧
      after = { worker with thread := ready.thread } := by
  constructor
  · intro ran
    obtain ⟨found, ⟨ready, _⟩, ranSpawn, ranRest⟩ := Task.bind_ran.mp ran
    obtain ⟨_, spawning, ⟨⟩⟩ := Task.ofOp_ran.mp ranSpawn
    rcases found with e | ⟨⟩
    · cases ranRest
      exact .inl ⟨e, spawning, rfl, rfl⟩
    · cases ranRest
      exact .inr ⟨ready, _, spawning, rfl, rfl⟩
  · intro steps
    rcases steps with ⟨e, spawning, rfl, rfl⟩ | ⟨ready, worker, spawning, ranRun, rfl⟩
    · exact Task.bind_ran.mpr ⟨_, _, Task.ofOp_ran.mpr ⟨_, spawning, rfl⟩, rfl⟩
    · refine Task.bind_ran.mpr ⟨_, _, Task.ofOp_ran.mpr ⟨_, spawning, rfl⟩, ?_⟩
      simp only [Task.onNewThread, ranRun]

/-- The handle is duplicated and a worker is asked for, which makes the switch with the second
handle and closes that. -/
theorem runDetached_ran : runDetached destination body (before, own) = (outcome, after, rest) ↔
    (∃ e, destination.duplicate before = (.error e, after) ∧
      outcome = .failed (OfError.ofError e) ∧ rest = own) ∨
    (∃ copy copied e spawned, destination.duplicate before = (.ok copy, copied) ∧
      spawnFor destination copied = (.error e, spawned) ∧ copy.drop spawned = ((), after) ∧
      outcome = .failed (OfError.ofError e) ∧ rest = own) ∨
    ∃ copy copied ready inner left closing worker,
      destination.duplicate before = (.ok copy, copied) ∧
      spawnFor destination copied = (.ok (), ready) ∧
      run copy body ({ ready with thread := ready.thread.spawned }, own) = (inner, left, rest) ∧
      closeAfter copy inner left = (closing, worker) ∧ outcome = report closing ∧
      after = { worker with thread := ready.thread } := by
  constructor
  · intro ran
    obtain ⟨found, ⟨copied, _⟩, ranCopy, ranRest⟩ := Task.bind_ran.mp ran
    obtain ⟨_, copying, ⟨⟩⟩ := Task.ofOp_ran.mp ranCopy
    rcases found with e | copy
    · cases ranRest
      exact .inl ⟨e, copying, rfl, rfl⟩
    · obtain ⟨asked, ⟨ready, _⟩, ranSpawn, ranRest⟩ := Task.bind_ran.mp ranRest
      obtain ⟨_, spawning, ⟨⟩⟩ := Task.ofOp_ran.mp ranSpawn
      rcases asked with e | ⟨⟩
      · obtain ⟨⟨⟩, ⟨dropped, _⟩, ranDrop, ranRest⟩ := Task.bind_ran.mp ranRest
        obtain ⟨_, dropping, ⟨⟩⟩ := Task.ofOp_ran.mp ranDrop
        cases ranRest
        exact .inr (.inl ⟨copy, copied, e, ready, copying, spawning, dropping, rfl, rfl⟩)
      · cases ranRest
        exact .inr (.inr ⟨copy, copied, ready, _, _, _, _, copying, spawning, rfl, rfl, rfl, rfl⟩)
  · intro steps
    rcases steps with ⟨e, copying, rfl, rfl⟩ |
      ⟨copy, copied, e, spawned, copying, spawning, dropping, rfl, rfl⟩ |
      ⟨copy, copied, ready, inner, left, closing, worker, copying, spawning, ranRun, ranClose, rfl, rfl⟩
    · exact Task.bind_ran.mpr ⟨_, _, Task.ofOp_ran.mpr ⟨_, copying, rfl⟩, rfl⟩
    · refine Task.bind_ran.mpr ⟨_, _, Task.ofOp_ran.mpr ⟨_, copying, rfl⟩, ?_⟩
      refine Task.bind_ran.mpr ⟨_, _, Task.ofOp_ran.mpr ⟨_, spawning, rfl⟩, ?_⟩
      exact Task.bind_ran.mpr ⟨_, _, Task.ofOp_ran.mpr ⟨_, dropping, rfl⟩, rfl⟩
    · refine Task.bind_ran.mpr ⟨_, _, Task.ofOp_ran.mpr ⟨_, copying, rfl⟩, ?_⟩
      refine Task.bind_ran.mpr ⟨_, _, Task.ofOp_ran.mpr ⟨_, spawning, rfl⟩, ?_⟩
      have ranWorker : (run copy body >>= fun outcome =>
          Task.ofOp (closeAfter copy outcome) >>= fun outcome => pure (report outcome))
            ({ ready with thread := ready.thread.spawned }, own) =
              (report closing, worker, rest) := by
        refine Task.bind_ran.mpr ⟨_, _, ranRun, ?_⟩
        exact Task.bind_ran.mpr ⟨_, _, Task.ofOp_ran.mpr ⟨_, ranClose, rfl⟩, rfl⟩
      simp only [Task.onNewThread]
      rw [ranWorker]

/-- The path is opened, the switch is made, and the handle is closed. -/
theorem runAtPath_ran : runAtPath path body (before, own) = (outcome, after, rest) ↔
    (∃ e, Handle.openPath path before = (.error e, after) ∧
      outcome = .failed (OfError.ofError e) ∧ rest = own) ∨
    ∃ destination opened inner left, Handle.openPath path before = (.ok destination, opened) ∧
      run destination body (opened, own) = (inner, left, rest) ∧
      closeAfter destination inner left = (outcome, after) := by
  constructor
  · intro ran
    obtain ⟨found, ⟨opened, _⟩, ranOpen, ranRest⟩ := Task.bind_ran.mp ran
    obtain ⟨_, opening, ⟨⟩⟩ := Task.ofOp_ran.mp ranOpen
    rcases found with e | destination
    · cases ranRest
      exact .inl ⟨e, opening, rfl, rfl⟩
    · obtain ⟨inner, ⟨left, _⟩, ranRun, ranClose⟩ := Task.bind_ran.mp ranRest
      obtain ⟨_, closing, ⟨⟩⟩ := Task.ofOp_ran.mp ranClose
      exact .inr ⟨destination, opened, inner, left, opening, ranRun, closing⟩
  · intro steps
    rcases steps with ⟨e, opening, rfl, rfl⟩ | ⟨destination, opened, inner, left, opening, ranRun, closing⟩
    · exact Task.bind_ran.mpr ⟨_, _, Task.ofOp_ran.mpr ⟨_, opening, rfl⟩, rfl⟩
    · refine Task.bind_ran.mpr ⟨_, _, Task.ofOp_ran.mpr ⟨_, opening, rfl⟩, ?_⟩
      refine Task.bind_ran.mpr ⟨_, _, ranRun, ?_⟩
      exact Task.ofOp_ran.mpr ⟨_, closing, rfl⟩

/-- The handle is dropped by unwinding and closed otherwise, and if closing it fails, a value that
was returned is thrown away. -/
theorem closeAfter_ran {handle : Handle} {settled : Outcome π ε α}
    (ran : closeAfter handle outcome before = (settled, after)) :
    (∃ payload, outcome = .unwound payload ∧ settled = outcome ∧ handle.drop before = ((), after)) ∨
    (∃ value e middle, outcome = .returned value ∧ handle.close before = (.error e, middle) ∧
      discard value middle = ((), after) ∧ settled = .failed (OfError.ofError e)) ∨
    ∃ closed, handle.close before = (closed, after) ∧ settled = outcome := by
  cases outcome with
  | unwound payload =>
      obtain ⟨⟨⟩, dropped, ranDrop, ranRest⟩ := Op.bind_ran.mp ran
      cases ranRest
      exact .inl ⟨payload, rfl, rfl, ranDrop⟩
  | failed error =>
      obtain ⟨closed, middle, ranClose, ranRest⟩ := Op.bind_ran.mp ran
      cases ranRest
      exact .inr (.inr ⟨closed, ranClose, rfl⟩)
  | returned value =>
      obtain ⟨closed, middle, ranClose, ranRest⟩ := Op.bind_ran.mp ran
      rcases closed with e | ⟨⟩
      · obtain ⟨⟨⟩, last, ranDiscard, ranRest⟩ := Op.bind_ran.mp ranRest
        cases ranRest
        exact .inr (.inl ⟨value, e, middle, rfl, ranClose, ranDiscard, rfl⟩)
      · cases ranRest
        exact .inr (.inr ⟨.ok (), ranClose, rfl⟩)

end Switch

end NetSwitch
