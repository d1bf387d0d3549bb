import NetSwitch.Proofs.Calls
import NetSwitch.Proofs.Switch.Passage

/-! The system calls of the two halves of a switch.

Neither has to do with a device.  A thread that enters is moved by the last call, and one that
goes back by the first.
-/

namespace NetSwitch

open Kernel (Descriptor Entry Report)

/-- Whether a call leaves devices alone. -/
def Kernel.Entry.Spares (entry : Entry) : Prop :=
  entry.concernsDevice = false

theorem Kernel.Entry.Aside.spares {entry : Entry} (aside : entry.Aside) : entry.Spares :=
  aside.2

theorem Kernel.Entry.Spares.kind {entry : Entry} (spares : entry.Spares) :
    entry.call.kind ≠ .setFlags := by
  intro same
  simp [Entry.Spares, Entry.concernsDevice, same, Kernel.CallKind.concernsDevice] at spares

/-- The calls of a stretch of a course that move its thread. -/
def Course.moves (moments : List (Moment Entry)) : List Entry :=
  (moments.map (·.step)).filter (·.moves)

namespace Course

variable {before after : Machine} {first rest moments : List (Moment Entry)}

@[simp] theorem moves_append : moves (first ++ rest) = moves first ++ moves rest := by
  simp [moves]

theorem moves_eq_nil (stay : ∀ moment ∈ moments, moment.step.moves = false) : moves moments = [] := by
  refine List.filter_eq_nil_iff.mpr fun entry member => ?_
  obtain ⟨moment, here, rfl⟩ := List.mem_map.mp member
  simp [stay moment here]

theorem moves_aside (aside : ∀ moment ∈ moments, moment.step.Aside) : moves moments = [] :=
  moves_eq_nil fun moment member => (aside moment member).1

end Course

theorem Op.Calls.namespaces {op : Op α} {answer : α} {before after : Machine}
    (calls : op.Calls Entry.Spares) (ran : op before = (answer, after)) :
    after.kernel.namespaces = before.kernel.namespaces := by
  obtain ⟨moments, course, spare⟩ := calls _ _ _ ran
  exact course.namespaces fun moment member => (spare moment member).kind

namespace Handle

variable {path : Path} {handle : Handle} {before after : Machine}

theorem openPath_namespaces {answer : Except Error Handle} (ran : openPath path before = (answer, after)) :
    after.kernel.namespaces = before.kernel.namespaces :=
  ((openPath_calls path).mono fun _ => Entry.Aside.spares).namespaces ran

theorem close_namespaces {closed : Except Error Unit} (ran : handle.close before = (closed, after)) :
    after.kernel.namespaces = before.kernel.namespaces :=
  ((close_calls handle).mono fun _ => Entry.Aside.spares).namespaces ran

end Handle

namespace Switch

variable {destination home : Handle} {before after : Machine} {own : Descriptor}

theorem setns_calls (descriptor : Descriptor) : (Syscall.setns descriptor).Calls Entry.Spares :=
  Op.calls_of_does Syscall.Does.setns fun _ _ => rfl

theorem closeHome_calls (home : Handle) : (closeHome home).Calls Entry.Aside := by
  refine Op.calls_bind (Handle.close_calls home) fun closed => ?_
  rcases closed with e | ⟨⟩
  · exact Op.calls_emit _
  · exact Op.calls_pure _

theorem enter_calls (destination : Handle) : (enter destination).Calls Entry.Spares := by
  unfold enter
  refine Op.calls_bind Op.calls_thread fun thread => ?_
  cases thread.state
  case switched => exact Op.calls_pure _
  case tainted => exact Op.calls_pure _
  cases destination.descriptor with
  | error e => exact Op.calls_pure _
  | ok descriptor =>
      refine Op.calls_bind ((Handle.openPath_calls _).mono fun _ => Entry.Aside.spares) fun found => ?_
      rcases found with e | home
      · exact Op.calls_pure _
      refine Op.calls_bind (setns_calls descriptor) fun moved => ?_
      rcases moved with errno | ⟨⟩
      · refine Op.calls_bind (Op.calls_emit _) fun _ => ?_
        refine Op.calls_bind ((closeHome_calls home).mono fun _ => Entry.Aside.spares) fun _ => ?_
        exact Op.calls_pure _
      · refine Op.calls_bind (Op.calls_setState _) fun _ => ?_
        exact Op.calls_bind (Op.calls_emit _) fun _ => Op.calls_pure _

theorem restore_calls (home : Handle) : (restore home).Calls Entry.Spares := by
  have moving : (moveBack home).Calls Entry.Spares := by
    unfold moveBack
    cases home.descriptor with
    | error e => exact Op.calls_pure _
    | ok descriptor =>
        refine Op.calls_bind (setns_calls descriptor) fun moved => ?_
        rcases moved with errno | ⟨⟩ <;> exact Op.calls_pure _
  have closing := (closeHome_calls home).mono fun _ => Entry.Aside.spares
  refine Op.calls_bind moving fun restored => ?_
  rcases restored with e | ⟨⟩
  all_goals
    refine Op.calls_bind (Op.calls_setState _) fun _ => ?_
    refine Op.calls_bind (Op.calls_emit _) fun _ => ?_
    exact Op.calls_bind closing fun _ => Op.calls_pure _

/-- The course of a thread that enters ends with the call that moves it. -/
theorem enter_course (ran : enter destination before = (.ok home, after)) :
    ∃ moments target, Course Syscall.Does before moments after ∧
      (∀ moment ∈ moments, moment.step.Spares) ∧
      Course.moves moments = [⟨.setns target (some after.thread.location), .ok⟩] := by
  obtain ⟨-, target, opened, moved, -, opening, moving, rfl⟩ := enter_ok_iff.mp ran
  obtain ⟨first, course, aside⟩ := Handle.openPath_calls _ _ _ _ opening
  have pauses : moved.Pauses (arrived destination home moved) := ⟨rfl, rfl, rfl⟩
  have entering := (Course.single (Syscall.Does.setns moving)).then_pause pauses
  obtain ⟨-, -, -, -, ⟨errno, failed, -⟩ | ⟨location, -, there, thread⟩⟩ := Syscall.setns_ran moving
  · cases failed
  refine ⟨_, target, course.append entering, ?_, ?_⟩
  · intro moment member
    rcases List.mem_append.mp member with earlier | last
    · exact (aside moment earlier).spares
    · rw [List.mem_singleton.mp last]
      rfl
  · rw [Course.moves_append, Course.moves_aside aside, there, arrived, thread]
    rfl

/-- A thread that goes back is moved, its state is noted, and the handle of where it came from is
closed. -/
theorem restore_steps {restored : Except Error Unit} (owns : home.descriptor? = some own)
    (ran : restore home before = (restored, after)) :
    ∃ (report : Except Errno Unit) (moved noted : Machine), Syscall.setns own before = (report, moved) ∧
      moved.Pauses noted ∧ closeHome home noted = ((), after) ∧
      restored = report.mapError fun errno => .switchFailed .restore (.os errno.byName) := by
  obtain ⟨moved, marked, noted, event, moving, kernel, thread, noting, closing⟩ := restore_ran ran
  have marking : moved.Pauses marked := ⟨kernel, by rw [thread], by rw [thread]⟩
  have pauses := marking.trans (.of_emit noting)
  rcases moveBack_ran moving with ⟨closed, -, -⟩ | ⟨_, report, owned, ranSetns, answered⟩
  · cases owns.symm.trans closed
  · cases owns.symm.trans owned
    exact ⟨report, moved, noted, ranSetns, pauses, closing, answered⟩

theorem restore_course {restored : Except Error Unit} (owns : home.descriptor? = some own)
    (ran : restore home before = (restored, after)) :
    ∃ moments origin report, Course Syscall.Does before moments after ∧
      (∀ moment ∈ moments, moment.step.Spares) ∧
      Course.moves moments = [⟨.setns own origin, report⟩] := by
  obtain ⟨report, moved, noted, moving, pauses, closing, -⟩ := restore_steps owns ran
  obtain ⟨rest, course, aside⟩ := closeHome_calls _ _ _ _ closing
  have going := (Course.single (Syscall.Does.setns moving)).then_pause pauses
  refine ⟨_, before.kernel.network? own, Syscall.noteOf (fun _ => .ok) report, going.append course,
    ?_, ?_⟩
  · intro moment member
    rcases List.mem_append.mp member with first | later
    · rw [List.mem_singleton.mp first]
      rfl
    · exact (aside moment later).spares
  · rw [Course.moves_append, Course.moves_aside aside]
    rfl

end Switch

end NetSwitch
