import NetSwitch.Proofs.Calls
import NetSwitch.Proofs.Calm
import NetSwitch.Proofs.Switch.Run

/-! Closing the handle of a switch that is over.

The handle's descriptor is closed once, and what that call reports decides whether a value that was
returned counts.
-/

namespace NetSwitch

open Kernel (Descriptor Entry Report)

/-- Whether an entry closes the descriptor of one of some handles. -/
def Kernel.Entry.Releases (handles : List Handle) (entry : Entry) : Prop :=
  ∃ handle ∈ handles, ∃ descriptor ∈ handle.descriptor?, entry.call = .close descriptor

theorem Kernel.Entry.Releases.mono {handles more : List Handle} {entry : Entry}
    (releases : entry.Releases handles) (sub : handles ⊆ more) : entry.Releases more := by
  obtain ⟨handle, member, closes⟩ := releases
  exact ⟨handle, sub member, closes⟩

theorem Handle.drop_calls (handle : Handle) : handle.drop.Calls (Entry.Releases [handle]) := by
  unfold drop
  cases owned : handle.descriptor? with
  | none => exact Op.calls_pure _
  | some descriptor =>
      refine Op.calls_bind (Op.calls_emit _) fun _ => Op.calls_bind ?_ fun _ => Op.calls_pure _
      exact Op.calls_of_does Syscall.Does.close fun _ _ => ⟨handle, by simp, descriptor, owned, rfl⟩

theorem Handle.dropAll_calls (handles : List Handle) : (dropAll handles).Calls (Entry.Releases handles) := by
  induction handles with
  | nil => exact Op.calls_pure _
  | cons handle rest ih =>
      refine Op.calls_bind ((drop_calls handle).mono fun entry releases => ?_) fun _ => ?_
      · exact releases.mono (by simp)
      · exact ih.mono fun entry releases => releases.mono (List.subset_cons_self ..)

namespace Switch

variable [OfError ε] [Owns α] {handle : Handle} {descriptor : Descriptor}
variable {before after : Machine} {outcome settled : Outcome π ε α}

/-- What code comes to once the handle of its switch has been closed, given what the call reports. -/
def closedWith (path : Path) (report : Report) : Outcome π ε α → Outcome π ε α
  | .returned value =>
      match report with
      | .failed errno => .failed (OfError.ofError (Handle.failure path errno.byName))
      | _ => .returned value
  | outcome => outcome

/-- The call that closes a descriptor, with what it reports, at the head of the calls of some work
that closes it no more. -/
structure Closed (before after : Machine) (descriptor : Descriptor) (report : Report) : Prop where
  namespaces : after.kernel.namespaces = before.kernel.namespaces
  trace : ∃ rest, after.kernel.trace = before.kernel.trace ++ ⟨.close descriptor, report⟩ :: rest ∧
    ∀ entry ∈ rest, entry.closes descriptor = false
  spared : before.kernel.Unarmed .close → descriptor ∈ before.kernel.opened → report = .ok

theorem closed_of_close {answer : Except Errno Unit}
    (ran : Syscall.close descriptor before = (answer, after)) :
    Closed before after descriptor (Syscall.noteOf (fun _ => .ok) answer) where
  namespaces := (Syscall.Does.close ran).namespaces (by simp [Kernel.Call.kind])
  trace := ⟨[], (Syscall.Does.close ran).trace, by simp⟩
  spared unarmed isOpen := by
    obtain ⟨object, found⟩ := Option.isSome_iff_exists.mp (Kernel.object?_isSome.mpr isOpen)
    rw [Syscall.close_of_unarmed unarmed found ran]
    rfl

theorem Closed.alike {middle : Machine} {report : Report} (closed : Closed before middle descriptor report)
    (alike : middle.Alike after) : Closed before after descriptor report := by
  obtain ⟨namespaces, trace, spared⟩ := closed
  rw [← alike.kernel] at namespaces trace
  exact ⟨namespaces, trace, spared⟩

theorem filter_closes_none {calls : List Entry} (others : ∀ entry ∈ calls, entry.closes descriptor = false) :
    calls.filter (·.closes descriptor) = [] :=
  List.filter_eq_nil_iff.mpr fun entry member => by simp [others entry member]

/-- If the descriptor was not closed before either, the trace shows that it was closed once. -/
theorem Closed.once {report : Report} {start calls : List Entry}
    (closed : Closed before after descriptor report) (trace : before.kernel.trace = start ++ calls)
    (others : ∀ entry ∈ calls, entry.closes descriptor = false) :
    ∃ all, after.kernel.trace = start ++ all ∧
      all.filter (·.closes descriptor) = [⟨.close descriptor, report⟩] := by
  obtain ⟨rest, grown, othersRest⟩ := closed.trace
  refine ⟨calls ++ ⟨.close descriptor, report⟩ :: rest, by rw [grown, trace, List.append_assoc], ?_⟩
  rw [List.filter_append, filter_closes_none others, List.filter_cons_of_pos (by simp [Entry.closes]),
    filter_closes_none othersRest, List.nil_append]

theorem Closed.discard {middle : Machine} {report : Report} {value : α}
    (closed : Closed before middle descriptor report)
    (apart : ∀ other ∈ Owns.handles value, other.descriptor? ≠ some descriptor)
    (ran : discard value middle = ((), after)) : Closed before after descriptor report := by
  obtain ⟨moments, course, releases⟩ := Handle.dropAll_calls _ _ _ _ ran
  obtain ⟨rest, trace, others⟩ := closed.trace
  refine ⟨(course.namespaces fun moment member => ?_).trans closed.namespaces, ?_, closed.spared⟩
  · obtain ⟨_, -, _, -, closes⟩ := releases moment member
    simp [closes, Kernel.Call.kind]
  · refine ⟨rest ++ moments.map (·.step), by simp [course.trace, trace], fun entry member => ?_⟩
    rcases List.mem_append.mp member with earlier | later
    · exact others entry earlier
    · obtain ⟨moment, here, rfl⟩ := List.mem_map.mp later
      obtain ⟨other, owned, its, names, closes⟩ := releases moment here
      simp only [Entry.closes, closes, Kernel.Call.close.injEq, decide_eq_false_iff_not]
      rintro rfl
      exact apart other owned names

theorem closed_of_closeHandle {answer : Except Error Unit} (owned : handle.descriptor? = some descriptor)
    (ran : handle.close before = (answer, after)) :
    ∃ closed, Closed before after descriptor (Syscall.noteOf (fun _ => .ok) closed) ∧
      answer = closed.mapError fun errno => Handle.failure handle.path errno.byName := by
  obtain ⟨closed, middle, closing, alike, answered⟩ := Handle.close_asked owned ran
  exact ⟨closed, (closed_of_close closing).alike alike, answered⟩

/-- The handle is closed once, and unless that fails the outcome stays what it was. -/
theorem closeAfter_closed (owned : handle.descriptor? = some descriptor)
    (apart : ∀ value, outcome = .returned value →
      ∀ other ∈ Owns.handles value, other.descriptor? ≠ some descriptor)
    (ran : closeAfter handle outcome before = (settled, after)) :
    ∃ report, Closed before after descriptor report ∧
      settled = closedWith handle.path report outcome := by
  cases outcome with
  | unwound payload =>
      obtain ⟨⟨⟩, dropped, dropping, ranRest⟩ := Op.bind_ran.mp ran
      cases ranRest
      obtain ⟨noted, closed, alike, closing⟩ := Handle.drop_asked owned dropping
      obtain ⟨namespaces, trace, spared⟩ := closed_of_close closing
      simp only [alike.kernel] at namespaces trace spared
      exact ⟨_, ⟨namespaces, trace, spared⟩, rfl⟩
  | failed e =>
      obtain ⟨answer, left, closing, ranRest⟩ := Op.bind_ran.mp ran
      cases ranRest
      obtain ⟨closed, told, -⟩ := closed_of_closeHandle owned closing
      exact ⟨_, told, rfl⟩
  | returned value =>
      obtain ⟨answer, left, closing, ranRest⟩ := Op.bind_ran.mp ran
      obtain ⟨closed, told, rfl⟩ := closed_of_closeHandle owned closing
      rcases closed with errno | ⟨⟩
      · obtain ⟨⟨⟩, last, discarding, ranRest⟩ := Op.bind_ran.mp ranRest
        cases ranRest
        exact ⟨_, told.discard (apart value rfl) discarding, rfl⟩
      · cases ranRest
        exact ⟨_, told, rfl⟩

end Switch

end NetSwitch
