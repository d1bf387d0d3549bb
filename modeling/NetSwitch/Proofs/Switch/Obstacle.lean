import NetSwitch.Proofs.Switch.Course
import NetSwitch.Proofs.Switch.Visit

/-! What stands in the way of a switch, and what is left of a switch that does not happen.

Each obstacle is looked for by itself, on the machine that the switch finds, and the first that is
there gives the error.  A machine on which a switch has been refused is the one before but for its
trace, its log and the faults that it has met.
-/

namespace NetSwitch

/-- Machines between which threads, descriptors, namespaces and files are the same. -/
structure Machine.Untouched (before after : Machine) : Prop where
  thread : after.thread = before.thread
  descriptors : after.kernel.descriptors = before.kernel.descriptors
  namespaces : after.kernel.namespaces = before.kernel.namespaces
  files : after.kernel.files = before.kernel.files

namespace Switch

/-- What can stand in the way of a switch. -/
inductive Obstacle where
  /-- The thread has been moved already. -/
  | reentrant
  /-- The thread could not be brought back. -/
  | tainted
  /-- The destination has been closed. -/
  | closed
  /-- The thread's own namespace cannot be opened. -/
  | lost
  /-- The thread cannot be moved. -/
  | barred
deriving DecidableEq, Repr

namespace Obstacle

/-- The obstacles in the order in which they count. -/
def all : List Obstacle :=
  [.reentrant, .tainted, .closed, .lost, .barred]

/-- The error of an obstacle, if it is there.  Whether another is there as well does not matter. -/
def error? (destination : Handle) (machine : Machine) : Obstacle → Option Error
  | .reentrant => if machine.thread.state = .switched then some .reentrant else none
  | .tainted => if machine.thread.state = .tainted then some .threadTainted else none
  | .closed => if destination.isClosed then some (.handleClosed destination.path) else none
  | .lost =>
      match Handle.openOwn machine with
      | (.error e, _) => some e
      | (.ok _, _) => none
  | .barred =>
      match destination.descriptor?, Handle.openOwn machine with
      | some target, (.ok _, opened) =>
          match Syscall.setns target opened with
          | (.error errno, _) => some (.switchFailed .enter (.os errno.byName))
          | (.ok (), _) => none
      | _, _ => none

/-- The error of the first obstacle that is there. -/
def first? (destination : Handle) (machine : Machine) : Option Error :=
  all.findSome? (error? destination machine)

end Obstacle

variable {destination home : Handle} {before after : Machine}

theorem closeHome_descriptors (ran : closeHome home before = ((), after)) :
    after.kernel.descriptors = home.without before.kernel.descriptors := by
  obtain ⟨closed, middle, ranClose, ranRest⟩ := Op.bind_ran.mp ran
  have left := Handle.close_descriptors ranClose
  rcases closed with e | ⟨⟩
  · rw [(Op.emit_ran ranRest).descriptors, left]
  · cases ranRest
    exact left

theorem Refused.first? {e : Error} (refused : Refused destination before after e) :
    Obstacle.first? destination before = some e := by
  cases refused with
  | reentrant state same => simp [Obstacle.first?, Obstacle.all, Obstacle.error?, state]
  | tainted state same => simp [Obstacle.first?, Obstacle.all, Obstacle.error?, state]
  | closed idle closed same =>
      simp [Obstacle.first?, Obstacle.all, Obstacle.error?, idle, Handle.isClosed, closed]
  | lost e target idle aims opening =>
      simp [Obstacle.first?, Obstacle.all, Obstacle.error?, idle, Handle.isClosed, aims, opening]
  | barred target home opened moved noted errno event idle aims opening moving noting closing =>
      simp [Obstacle.first?, Obstacle.all, Obstacle.error?, idle, Handle.isClosed, aims, opening, moving]

theorem first?_of_enters (enters : Enters destination before) :
    Obstacle.first? destination before = none := by
  obtain ⟨idle, target, home, opened, moved, aims, opening, moving⟩ := enters
  simp [Obstacle.first?, Obstacle.all, Obstacle.error?, idle, Handle.isClosed, aims, opening, moving]

/-- A handle of the thread's own namespace is opened only for the move, so whatever becomes of
closing it, the error is that of the move. -/
theorem Refused.of_opened {e : Error} {opened : Machine}
    (refused : Refused destination before after e) (idle : before.thread.state = .idle)
    (aims : destination.isClosed = false) (opening : Handle.openOwn before = (.ok home, opened)) :
    ∃ errno, e = .switchFailed .enter (.os errno) := by
  cases refused with
  | reentrant state same => cases idle.symm.trans state
  | tainted state same => cases idle.symm.trans state
  | closed idle closed same => simp [Handle.isClosed, closed] at aims
  | lost e target idle aims failing => cases opening.symm.trans failing
  | barred target home opened moved noted errno event idle aims opening moving noting closing =>
      exact ⟨errno.byName, rfl⟩

/-- What was opened for the move is closed again, and the thread is not marked. -/
theorem Refused.released {e : Error} (refused : Refused destination before after e) :
    after.thread = before.thread ∧ after.kernel.descriptors = before.kernel.descriptors := by
  cases refused with
  | reentrant state same => exact ⟨by rw [same], by rw [same]⟩
  | tainted state same => exact ⟨by rw [same], by rw [same]⟩
  | closed idle closed same => exact ⟨by rw [same], by rw [same]⟩
  | lost e target idle aims opening =>
      rcases Handle.openPath_ran opening with ⟨_, -, quiet⟩ | ⟨_, _, _, -, made, -⟩
      · exact ⟨quiet.thread, quiet.descriptors⟩
      · cases made
  | barred target home opened moved noted errno event idle aims opening moving noting closing =>
      rcases Handle.openPath_ran opening with ⟨_, failed, -⟩ | ⟨_, own, file, -, ⟨⟩, owns, -, makes⟩
      · cases failed
      obtain ⟨-, descriptors, -, -, ⟨_, -, unmoved⟩ | ⟨_, failed, -⟩⟩ := Syscall.setns_ran moving
      · have note := Op.emit_ran noting
        constructor
        · rw [(closeHome_trails closing).thread, note.thread, unmoved, makes.works.thread]
        · rw [closeHome_descriptors closing, Handle.without_of_open owns, note.descriptors, descriptors,
            makes.filter_ne]
      · cases failed

theorem enter_untouched {e : Error} (ran : enter destination before = (.error e, after)) :
    before.Untouched after := by
  obtain ⟨thread, descriptors⟩ := (enter_error ran).released
  exact ⟨thread, descriptors, (enter_calls destination).namespaces ran,
    (enter_calls destination).files ran⟩

/-- What there is to say of a switch that has not happened: its error is that of the first obstacle,
never one of closing what was opened for it, and nothing has been touched. -/
structure Unmade (destination : Handle) (before after : Machine) (e : Error) : Prop where
  first : Obstacle.first? destination before = some e
  opened : before.thread.state = .idle → destination.isClosed = false →
    ∀ home opened, Handle.openOwn before = (.ok home, opened) →
      ∃ errno, e = .switchFailed .enter (.os errno)
  untouched : before.Untouched after

theorem enter_unmade {e : Error} (ran : enter destination before = (.error e, after)) :
    Unmade destination before after e where
  first := (enter_error ran).first?
  opened idle aims _ _ opening := (enter_error ran).of_opened idle aims opening
  untouched := enter_untouched ran

variable [OfError ε] [Owns α]

/-- Code is not invoked exactly if there is an obstacle, and a switch that has not invoked it is
unmade. -/
theorem run_unmade (destination : Handle) (body : Body σ π ε α) (before : Machine) (own : σ) :
    ∃ outcome after rest visits,
      run destination body (before, own) = (outcome, after, rest) ∧
      run destination body.noted (before, own, []) = (outcome, after, rest, visits) ∧
      (visits = [] ↔ (Obstacle.first? destination before).isSome) ∧
      (visits = [] → ∃ e, outcome = .failed (OfError.ofError e) ∧ rest = own ∧
        Unmade destination before after e) := by
  cases ran : run destination body (before, own) with
  | mk outcome left =>
      obtain ⟨after, rest⟩ := left
      rcases run_noted ran with
        ⟨noted, e, entering, rfl, rfl⟩ | ⟨visit, noted, entering, ranBody, leaving⟩
      · have unmade := enter_unmade entering
        refine ⟨_, _, _, [], rfl, noted, ?_, fun _ => ⟨e, rfl, rfl, unmade⟩⟩
        simp [unmade.first]
      · refine ⟨_, _, _, [visit], rfl, noted, ?_, by simp⟩
        simp [first?_of_enters (enters_iff.mpr ⟨_, _, entering⟩)]

end Switch

end NetSwitch
