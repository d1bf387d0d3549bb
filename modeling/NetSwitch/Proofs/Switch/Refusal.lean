import NetSwitch.Proofs.Mirror.Syscall
import NetSwitch.Proofs.Switch.Run

/-! Switches that are refused because of the thread.

A thread that has been moved, or that could not be brought back, is refused before anything is
done.  So a switch within a switch of the same thread may as well be the error that it comes to,
and `Standing` says for every switch whether it is one of those.
-/

namespace NetSwitch

namespace Switch

variable [OfError ε] [Owns α] {destination : Handle} {body other : Body σ π ε α}
variable {machine : Machine} {own : σ}

/-- Whatever the destination and the code, a thread that has been moved is refused, and nothing
has been done. -/
theorem run_reentrant (switched : machine.thread.state = .switched) :
    run destination body (machine, own) = (.failed (OfError.ofError .reentrant), machine, own) := by
  refine run_ran.mpr (.inl ⟨.reentrant, ?_, rfl, rfl⟩)
  simp only [enter, Op.thread_bind, switched]
  rfl

theorem run_threadTainted (tainted : machine.thread.state = .tainted) :
    run destination body (machine, own) =
      (.failed (OfError.ofError .threadTainted), machine, own) := by
  refine run_ran.mpr (.inl ⟨.threadTainted, ?_, rfl, rfl⟩)
  simp only [enter, Op.thread_bind, tainted]
  rfl

/-- Code is only ever run on a thread that has been moved, so that is all that two pieces of code
must agree on. -/
theorem run_congr
    (agree : ∀ home (entered : Machine) own, entered.thread.state = .switched →
      body home (entered, own) = other home (entered, own)) :
    run destination body = run destination other := by
  funext ⟨before, own⟩
  cases ran : run destination other (before, own) with
  | mk outcome left =>
      obtain ⟨after, rest⟩ := left
      rcases run_ran.mp ran with refused | ⟨home, entered, inner, left, entering, ranBody, leaving⟩
      · exact run_ran.mpr (.inl refused)
      · obtain ⟨target, descriptor, location, arrived⟩ := enter_entered entering
        have moved : entered.thread.state = .switched := by rw [arrived.thread]
        rw [← agree home entered own moved] at ranBody
        exact run_ran.mpr (.inr ⟨home, entered, inner, left, entering, ranBody, leaving⟩)

end Switch

/-- Whether code runs within a switch of its thread. -/
inductive Standing where
  | outside
  | inside

namespace Standing

/-- Within a switch the thread is one that has been moved; outside it can be any. -/
def Admits : Standing → SwitchState → Prop
  | .outside, _ => True
  | .inside, state => state = .switched

/-- Two runs that do the same on the threads of a standing, and leave them so. -/
abbrev Agree (standing : Standing) (thread : S → Thread) (first second : StateM S α) : Prop :=
  InStep (fun state state' => state = state' ∧ standing.Admits (thread state).state) Eq first second

/-- Operations that do the same. -/
abbrev Ops (standing : Standing) (first second : Op α) : Prop :=
  standing.Agree Machine.thread first second

/-- Tasks that do the same. -/
abbrev Tasks (standing : Standing) (first second : Task σ α) : Prop :=
  standing.Agree (fun state : Machine × σ => state.1.thread) first second

/-- A switch of the running thread.  One within another is not made. -/
def run [OfError ε] [Owns α] :
    Standing → Handle → Switch.Body σ π ε α → Task σ (Outcome π ε α)
  | .outside, destination, body => Switch.run destination body
  | .inside, _, _ => return .failed (OfError.ofError .reentrant)

/-- `Switch.runAtPath`, with the switch of a standing. -/
def runAtPath [OfError ε] [Owns α] (standing : Standing) (path : Path) (body : Switch.Body σ π ε α) :
    Task σ (Outcome π ε α) := do
  match ← Task.ofOp (Handle.openPath path) with
  | .error e => return .failed (OfError.ofError e)
  | .ok destination =>
      let outcome ← standing.run destination body
      Task.ofOp (Switch.closeAfter destination outcome)

variable {standing : Standing} {first second : StateM S α} {thread : S → Thread}

theorem agree_refl (stays : ∀ state, (thread (first state).2).state = (thread state).state) :
    standing.Agree thread first first := by
  rintro state _ ⟨rfl, admitted⟩
  refine ⟨rfl, rfl, ?_⟩
  rw [stays]
  exact admitted

theorem agree_at (agree : standing.Agree thread first second) (state : S)
    (admitted : standing.Admits (thread state).state) :
    (first state).1 = (second state).1 ∧ (first state).2 = (second state).2 ∧
      standing.Admits (thread (first state).2).state := by
  obtain ⟨same, left, stays⟩ := agree ⟨rfl, admitted⟩
  exact ⟨same, left, stays⟩

/-- Outside of switches, to agree is to be the same. -/
theorem agree_outside : outside.Agree thread first second ↔ first = second := by
  constructor
  · intro agree
    funext state
    obtain ⟨same, left, -⟩ := agree_at agree state trivial
    exact Prod.ext same left
  · rintro rfl state _ ⟨rfl, -⟩
    exact ⟨rfl, rfl, trivial⟩

section Tasks

variable {op other : Op α}

theorem ops_of_trails
    (trails : ∀ {before answer after}, op before = (answer, after) → before.Trails after) :
    standing.Ops op op := by
  refine agree_refl fun machine => congrArg Thread.state ?_
  have ran : op machine = ((op machine).1, (op machine).2) := rfl
  exact (trails ran).thread

theorem tasks_ofOp (ops : standing.Ops op other) :
    standing.Tasks (Task.ofOp op : Task σ α) (Task.ofOp other) := by
  rintro ⟨machine, own⟩ _ ⟨rfl, admitted⟩
  obtain ⟨same, left, stays⟩ := ops ⟨rfl, admitted⟩
  exact ⟨same, congrArg (fun machine : Machine => (machine, own)) left, stays⟩

theorem tasks_of_trails
    (trails : ∀ {before answer after}, op before = (answer, after) → before.Trails after) :
    standing.Tasks (Task.ofOp op : Task σ α) (Task.ofOp op) :=
  tasks_ofOp (ops_of_trails trails)

end Tasks

section Switches

variable [OfError ε] [Owns α] {destination : Handle} {body other : Switch.Body σ π ε α}

/-- Every switch is one of its standing: within another it is refused, and outside of any the code
that it runs is within it. -/
theorem tasks_run (bodies : ∀ home, inside.Tasks (body home) (other home)) :
    standing.Tasks (Switch.run destination body) (standing.run destination other) := by
  cases standing with
  | outside =>
      refine agree_outside.mpr (Switch.run_congr fun home entered own switched => ?_)
      obtain ⟨same, left, -⟩ := agree_at (bodies home) (entered, own) switched
      exact Prod.ext same left
  | inside =>
      rintro ⟨machine, own⟩ _ ⟨rfl, switched⟩
      rw [Switch.run_reentrant switched]
      exact ⟨rfl, rfl, switched⟩

theorem tasks_closeAfter {outcome : Outcome π ε α} :
    standing.Tasks (Task.ofOp (Switch.closeAfter destination outcome) : Task σ _)
      (Task.ofOp (Switch.closeAfter destination outcome)) := by
  refine tasks_of_trails fun {before settled after} ran => ?_
  rcases Switch.closeAfter_ran ran with ⟨payload, -, -, dropping⟩ |
    ⟨value, e, middle, -, closing, discarding, -⟩ | ⟨closed, closing, -⟩
  · exact Handle.drop_trails dropping
  · exact (Handle.close_trails closing).trans (discard_trails discarding)
  · exact Handle.close_trails closing

theorem tasks_runAtPath {path : Path} (bodies : ∀ home, inside.Tasks (body home) (other home)) :
    standing.Tasks (Switch.runAtPath path body) (standing.runAtPath path other) := by
  apply InStep.bind (tasks_of_trails Handle.openPath_trails)
  rintro opened _ rfl
  cases opened with
  | error e => exact .pure rfl
  | ok destination =>
      apply InStep.bind (tasks_run bodies)
      rintro outcome _ rfl
      exact tasks_closeAfter

/-- A worker is outside of any switch when it starts, wherever the thread that waits for it is. -/
theorem runOnWorker_congr (bodies : ∀ home, inside.Tasks (body home) (other home)) :
    Switch.runOnWorker destination body = Switch.runOnWorker destination other := by
  simp only [Switch.runOnWorker, agree_outside.mp (tasks_run bodies), run]

theorem runDetached_congr (bodies : ∀ home, inside.Tasks (body home) (other home)) :
    Switch.runDetached destination body = Switch.runDetached destination other := by
  have runs (copy : Handle) : Switch.run copy body = Switch.run copy other :=
    agree_outside.mp (tasks_run bodies)
  simp only [Switch.runDetached, runs]

end Switches

end Standing

end NetSwitch
