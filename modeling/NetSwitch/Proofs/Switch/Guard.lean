import NetSwitch.Proofs.Switch.Run

/-! The guard of a switch: it keeps the handle of where its thread came from, for as long as the thread
is not back.

Going back has a case for a handle that is closed, and a guard has one for having given its handle
away.  Here these cases are parameters, and a switch with a guard is the same whatever they do.
-/

namespace NetSwitch.Switch

/-- What would be done with a guard that has no handle, and to go back with a handle that is closed. -/
structure Lapses where
  empty : Except Error Handle
  closed : Handle → Op (Except Error Unit)

/-- What a thread holds while it is away: the handle of where it came from, unless it has been taken. -/
structure Guard where
  original? : Option Handle

variable {lapses : Lapses} {destination home : Handle}

/-- The move back, with the case of a closed handle left open. -/
def Lapses.moveBack (lapses : Lapses) (home : Handle) : Op (Except Error Unit) := do
  match home.descriptor? with
  | none => lapses.closed home
  | some descriptor =>
      match ← Syscall.setns descriptor with
      | .error errno => return .error (.switchFailed .restore (.os errno.byName))
      | .ok () => return .ok ()

/-- What is done with the handle once the move back has been tried. -/
def afterMove (home : Handle) (restored : Except Error Unit) : Op (Except Error Unit) := do
  match restored with
  | .ok () =>
      Op.setState .idle
      Op.emit ⟨.debug, .switch, "restored network namespace", [("to", .text home.id.display)]⟩
  | .error e =>
      Op.setState .tainted
      Op.emit ⟨.error, .switch, "failed to restore network namespace; thread is now tainted",
        [("original", .text home.id.display), ("error", .text e.message)]⟩
  closeHome home
  return restored

def Lapses.restoreInto (lapses : Lapses) (home : Handle) : Op (Except Error Unit) := do
  afterMove home (← lapses.moveBack home)

/-- What is done as things are: both cases are errors. -/
def Lapses.actual : Lapses where
  empty := .error .threadTainted
  closed home := return .error (.handleClosed home.path)

theorem Lapses.actual_moveBack : Lapses.actual.moveBack home = Switch.moveBack home := by
  unfold Lapses.moveBack Switch.moveBack Handle.descriptor
  cases home.descriptor? <;> rfl

theorem Lapses.actual_restoreInto : Lapses.actual.restoreInto home = restore home := by
  rw [Lapses.restoreInto, actual_moveBack]
  rfl

namespace Guard

/-- Moves the thread, which makes the guard. -/
def enter (destination : Handle) : Op (Except Error Guard) := do
  match ← Switch.enter destination with
  | .error e => return .error e
  | .ok home => return .ok ⟨some home⟩

/-- The handle that the code inside is lent. -/
def original (lapses : Lapses) (guard : Guard) : Except Error Handle :=
  match guard.original? with
  | some home => .ok home
  | none => lapses.empty

/-- Goes back with the handle, which is taken out of the guard. -/
def restore (lapses : Lapses) (guard : Guard) : Op (Except Error Unit × Guard) := do
  match guard.original? with
  | some home => return (← lapses.restoreInto home, ⟨none⟩)
  | none => return (.ok (), ⟨none⟩)

/-- The end of a guard.  One that still has its handle goes back with it. -/
def drop (lapses : Lapses) (guard : Guard) : Op Unit := do
  match guard.original? with
  | some home =>
      Op.emit ⟨.warn, .switch, "restoring network namespace while unwinding", []⟩
      let _ ← lapses.restoreInto home
  | none => return

/-- Leaves a switch.  By returning, the guard goes back and is at its end; by unwinding, it is at its end
at once. -/
def leave [OfError ε] [Owns α] (lapses : Lapses) (guard : Guard) (outcome : Outcome π ε α) :
    Op (Outcome π ε α) := do
  match outcome with
  | .unwound payload =>
      guard.drop lapses
      return .unwound payload
  | outcome =>
      let (restored, spent) ← guard.restore lapses
      spent.drop lapses
      afterReturn outcome restored

/-- Runs code with the thread moved into a namespace and a guard that brings it back. -/
def run [OfError ε] [Owns α] (lapses : Lapses) (destination : Handle) (body : Body σ π ε α) :
    Task σ (Outcome π ε α) := do
  match ← Task.ofOp (Guard.enter destination) with
  | .error e => return .failed (OfError.ofError e)
  | .ok guard =>
      match guard.original lapses with
      | .error e =>
          Task.ofOp (guard.drop lapses)
          return .failed (OfError.ofError e)
      | .ok home =>
          let outcome ← body home
          Task.ofOp (guard.leave lapses outcome)

end Guard

/-- Going back with a handle that is open does not depend on what is done with one that is closed. -/
theorem Lapses.restoreInto_open {own : Kernel.Descriptor} (owns : home.descriptor? = some own) :
    lapses.restoreInto home = restore home := by
  rw [← Lapses.actual_restoreInto]
  simp only [Lapses.restoreInto, Lapses.moveBack, owns]

namespace Guard

variable {own : Kernel.Descriptor} {before after : Machine}

theorem enter_entered (entering : Switch.enter destination before = (.ok home, after)) :
    Guard.enter destination before = (.ok ⟨some home⟩, after) :=
  Op.bind_ran.mpr ⟨_, _, entering, rfl⟩

theorem enter_refused {e : Error} (entering : Switch.enter destination before = (.error e, after)) :
    Guard.enter destination before = (.error e, after) :=
  Op.bind_ran.mpr ⟨_, _, entering, rfl⟩

theorem leave_eq [OfError ε] [Owns α] {outcome : Outcome π ε α} (owns : home.descriptor? = some own) :
    Guard.leave lapses ⟨some home⟩ outcome = Switch.leave home outcome := by
  have restores : lapses.restoreInto home = Switch.restore home := Lapses.restoreInto_open owns
  cases outcome <;> simp only [Guard.leave, Switch.leave, drop, restore, restores] <;> rfl

/-- A guard is never without its handle while its thread is away, and never goes back with one that is
closed: whatever is done in these cases, a switch with a guard is a switch. -/
theorem run_eq [OfError ε] [Owns α] (lapses : Lapses) (destination : Handle)
    (body : Body σ π ε α) : Guard.run lapses destination body = Switch.run destination body := by
  funext state
  obtain ⟨machine, own⟩ := state
  cases ran : Switch.run destination body (machine, own) with
  | mk outcome last =>
      obtain ⟨after, rest⟩ := last
      rcases Switch.run_ran.mp ran with
        ⟨e, entering, rfl, rfl⟩ | ⟨home, arrival, inner, left, entering, ranBody, leaving⟩
      · exact Task.bind_ran.mpr ⟨_, _, Task.ofOp_ran.mpr ⟨_, enter_refused entering, rfl⟩, rfl⟩
      · obtain ⟨target, descriptor, location, entered⟩ := Switch.enter_entered entering
        refine Task.bind_ran.mpr ⟨_, _, Task.ofOp_ran.mpr ⟨_, enter_entered entering, rfl⟩, ?_⟩
        refine Task.bind_ran.mpr ⟨_, _, ranBody, Task.ofOp_ran.mpr ⟨_, ?_, rfl⟩⟩
        rw [leave_eq entered.owns]
        exact leaving

end Guard

end NetSwitch.Switch
