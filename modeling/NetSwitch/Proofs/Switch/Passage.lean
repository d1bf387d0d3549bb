import NetSwitch.Proofs.Handle
import NetSwitch.Switch.Passage

/-! Entering a namespace and going back: what becomes of the thread, of the handle of where
it came from, and of the outcome of the code in between. -/

namespace NetSwitch.Switch

open Kernel (Descriptor Object Report Entry)

variable {destination home : Handle} {before middle after : Machine} {own : Descriptor}

theorem closeHome_works (backed : home.Backed before.kernel)
    (ran : closeHome home before = ((), after)) :
    before.Works after (home.without before.kernel.descriptors) := by
  obtain ⟨closed, middle, ranClose, ranRest⟩ := Op.bind_ran.mp ran
  have works := Handle.close_works backed ranClose
  rcases closed with e | ⟨⟩
  · exact works.trans_quiet (Op.emit_ran ranRest)
  · cases ranRest
    exact works

theorem closeHome_trails (ran : closeHome home before = ((), after)) : before.Trails after := by
  obtain ⟨closed, middle, ranClose, ranRest⟩ := Op.bind_ran.mp ran
  have trails := Handle.close_trails ranClose
  rcases closed with e | ⟨⟩
  · exact trails.trans (Op.emit_ran ranRest).trails
  · cases ranRest
    exact trails

/-- The machine of a thread that has just been moved, with the move noted. -/
def arrived (destination home : Handle) (moved : Machine) : Machine :=
  { moved with
    thread := { moved.thread with state := .switched }
    log := moved.log ++ [⟨.debug, .switch, "entered network namespace",
      [("from", .text home.id.display), ("to", .text destination.id.display),
        ("path", .text destination.path.display)]⟩] }

/-- What keeps a thread from entering, with the error of it and what it leaves behind.  The
reasons stand in the order in which they are looked for. -/
inductive Refused (destination : Handle) (before after : Machine) : Error → Prop where
  | reentrant (state : before.thread.state = .switched) (same : after = before) :
      Refused destination before after .reentrant
  | tainted (state : before.thread.state = .tainted) (same : after = before) :
      Refused destination before after .threadTainted
  | closed (idle : before.thread.state = .idle) (closed : destination.descriptor? = none)
      (same : after = before) : Refused destination before after (.handleClosed destination.path)
  | lost (e : Error) (target : Descriptor) (idle : before.thread.state = .idle)
      (aims : destination.descriptor? = some target)
      (opening : Handle.openOwn before = (.error e, after)) : Refused destination before after e
  | barred (target : Descriptor) (home : Handle) (opened moved noted : Machine) (errno : Errno)
      (event : Log.Event) (idle : before.thread.state = .idle)
      (aims : destination.descriptor? = some target)
      (opening : Handle.openOwn before = (.ok home, opened))
      (moving : Syscall.setns target opened = (.error errno, moved))
      (noting : Op.emit event moved = ((), noted))
      (closing : closeHome home noted = ((), after)) :
      Refused destination before after (.switchFailed .enter (.os errno.byName))

theorem enter_ran {answer : Except Error Handle} (ran : enter destination before = (answer, after)) :
    (∃ e, answer = .error e ∧ Refused destination before after e) ∨
      ∃ target home opened moved, before.thread.state = .idle ∧ destination.descriptor? = some target ∧
        Handle.openOwn before = (.ok home, opened) ∧ Syscall.setns target opened = (.ok (), moved) ∧
        answer = .ok home ∧ after = arrived destination home moved := by
  simp only [enter, Op.thread_bind] at ran
  cases state : before.thread.state with
  | switched =>
      rw [state] at ran
      cases ran
      exact .inl ⟨_, rfl, .reentrant state rfl⟩
  | tainted =>
      rw [state] at ran
      cases ran
      exact .inl ⟨_, rfl, .tainted state rfl⟩
  | idle =>
      rw [state] at ran
      simp only [Handle.descriptor] at ran
      cases aims : destination.descriptor? with
      | none =>
          rw [aims] at ran
          cases ran
          exact .inl ⟨_, rfl, .closed state aims rfl⟩
      | some target =>
          rw [aims] at ran
          obtain ⟨found, opened, opening, ranRest⟩ := Op.bind_ran.mp ran
          rcases found with e | home
          · cases ranRest
            exact .inl ⟨e, rfl, .lost e target state aims opening⟩
          · obtain ⟨moving, moved, ranSetns, ranRest⟩ := Op.bind_ran.mp ranRest
            rcases moving with errno | ⟨⟩
            · obtain ⟨⟨⟩, noted, ranEmit, ranRest⟩ := Op.bind_ran.mp ranRest
              obtain ⟨⟨⟩, last, closing, ranRest⟩ := Op.bind_ran.mp ranRest
              cases ranRest
              exact .inl ⟨_, rfl, .barred target home opened moved noted errno _ state aims opening ranSetns
                ranEmit closing⟩
            · cases ranRest
              exact .inr ⟨target, home, opened, moved, rfl, rfl, opening, ranSetns, rfl, rfl⟩

/-- The conditions under which a thread enters: it is idle, the destination is open, and
opening the thread's own namespace and moving the thread both succeed. -/
theorem enter_ok_iff : enter destination before = (.ok home, after) ↔
    before.thread.state = .idle ∧ ∃ target opened moved,
      destination.descriptor? = some target ∧ Handle.openOwn before = (.ok home, opened) ∧
      Syscall.setns target opened = (.ok (), moved) ∧ after = arrived destination home moved := by
  constructor
  · intro ran
    rcases enter_ran ran with
      ⟨e, failed, -⟩ | ⟨target, own, opened, moved, idle, aims, opening, moving, answered, left⟩
    · cases failed
    · cases answered
      exact ⟨idle, target, opened, moved, aims, opening, moving, left⟩
  · intro steps
    obtain ⟨state, target, opened, moved, owned, ranOpen, ranSetns, rfl⟩ := steps
    simp only [enter, Op.thread_bind, state, Handle.descriptor, owned]
    refine Op.bind_ran.mpr ⟨_, _, ranOpen, ?_⟩
    refine Op.bind_ran.mpr ⟨_, _, ranSetns, ?_⟩
    rfl

/-- A thread that was idle is in the namespace of its destination, and a handle has been
opened for it, which is one of the namespace that it was in. -/
structure Entered (before after : Machine) (destination home : Handle)
    (target own : Descriptor) (location : String) : Prop where
  idle : before.thread.state = .idle
  aims : destination.descriptor? = some target
  owns : home.descriptor? = some own
  there : after.kernel.network? target = some location
  origin : before.kernel.ResolvesOwn → after.kernel.network? own = some before.thread.location
  thread : after.thread = { before.thread with location, state := .switched }
  files : after.kernel.files = before.kernel.files
  fresh : before.kernel.made < own.number
  descriptors : ∃ object, after.kernel.descriptors = before.kernel.descriptors ++ [(own, object)]
  kernel : before.kernel.Extends after.kernel

theorem enter_entered (ran : enter destination before = (.ok home, after)) :
    ∃ target own location, Entered before after destination home target own location := by
  obtain ⟨idle, target, opened, moved, owned, ranOpen, ranSetns, rfl⟩ := enter_ok_iff.mp ran
  rcases Handle.openPath_ran ranOpen with
    ⟨e, failed, -⟩ | ⟨_, own, file, found, ⟨⟩, owns, -, makes⟩
  · cases failed
  obtain ⟨files, descriptors, made, -, effect⟩ := Syscall.setns_ran ranSetns
  rcases effect with ⟨errno, failed, -⟩ | ⟨location, -, there, thread⟩
  · cases failed
  have network (descriptor : Descriptor) :
      (arrived destination home moved).kernel.network? descriptor =
        opened.kernel.network? descriptor := by
    simp only [Kernel.network?, Kernel.object?, arrived, descriptors]
  refine ⟨target, own, location, idle, owned, owns, ?_, ?_, ?_, ?_, makes.fresh, ⟨.namespaceFile file, ?_⟩, ?_⟩
  · rw [network, there]
  · intro resolves
    rw [network]
    exact Handle.network?_of_made resolves found makes
  · simp only [arrived, thread, makes.works.thread]
  · exact files.trans makes.works.files
  · exact descriptors.trans makes.works.descriptors
  · refine makes.works.kernel.trans ?_
    exact (Syscall.setns_extends (Kernel.opened_of_network? there) ranSetns).trans
      (.of_eq rfl rfl rfl)

theorem enter_error {e : Error} (ran : enter destination before = (.error e, after)) :
    Refused destination before after e := by
  rcases enter_ran ran with ⟨_, ⟨⟩, refused⟩ | ⟨_, _, _, _, -, -, -, -, answered, -⟩
  · exact refused
  · cases answered

/-- A switch that is refused leaves the thread and the descriptors as they were. -/
theorem Refused.quiet {e : Error} (backed : destination.Backed before.kernel)
    (refused : Refused destination before after e) : before.Quiet after := by
  cases refused with
  | reentrant state same => exact same ▸ .refl _
  | tainted state same => exact same ▸ .refl _
  | closed idle closed same => exact same ▸ .refl _
  | lost e target idle aims opening =>
      rcases Handle.openPath_ran opening with ⟨_, -, quiet⟩ | ⟨_, _, _, -, made, -⟩
      · exact quiet
      · cases made
  | barred target home opened moved noted errno event idle aims opening moving noting closing =>
      rcases Handle.openPath_ran opening with ⟨_, failed, -⟩ | ⟨_, own, file, -, ⟨⟩, owns, -, makes⟩
      · cases failed
      have isOpen : target ∈ opened.kernel.opened := by
        rw [makes.opened]
        exact List.mem_append_left _ (backed target aims)
      have made := (makes.trans_quiet (Syscall.setns_refused isOpen moving)).trans_quiet
        (Op.emit_ran noting)
      refine made.trans_close ?_
      rw [← Handle.without_of_open owns]
      exact closeHome_works (Handle.backed_of_mem owns made.mem_opened) closing

theorem Refused.not_restore {e : Error} (refused : Refused destination before after e) :
    e.isRestoreFailure = false := by
  cases refused with
  | lost e target idle aims opening => exact Handle.openPath_not_restore opening
  | _ => rfl

/-! ### Going back -/

/-- What becomes of a thread that goes back to the namespace of a descriptor.  It arrives
there, or it stays where it is and is tainted; in both cases the move comes first in the
trace. -/
inductive Returns (before after : Machine) (own : Descriptor) : Except Error Unit → Prop where
  | back (location : String) (origin : before.kernel.network? own = some location)
      (thread : after.thread = { before.thread with location, state := .idle })
      (moved : before.kernel.trace ++ [⟨.setns own (some location), .ok⟩] <+: after.kernel.trace) :
      Returns before after own (.ok ())
  | stranded (errno : Errno) (thread : after.thread = { before.thread with state := .tainted })
      (failed : before.kernel.trace ++ [⟨.setns own (before.kernel.network? own), .failed errno⟩] <+:
        after.kernel.trace) :
      Returns before after own (.error (.switchFailed .restore (.os errno.byName)))

theorem Returns.trans_trails {restored : Except Error Unit}
    (returns : Returns before middle own restored) (trails : middle.Trails after) :
    Returns before after own restored := by
  cases returns with
  | back location origin thread moved =>
      exact .back location origin (trails.thread.trans thread) (moved.trans trails.trace)
  | stranded errno thread failed =>
      exact .stranded errno (trails.thread.trans thread) (failed.trans trails.trace)

/-- Only the call that moves the thread decides how the move back goes. -/
theorem moveBack_ran {restored : Except Error Unit} (ran : moveBack home before = (restored, after)) :
    (home.descriptor? = none ∧ after = before ∧ restored = .error (.handleClosed home.path)) ∨
      ∃ own report, home.descriptor? = some own ∧ Syscall.setns own before = (report, after) ∧
        restored = report.mapError fun errno => .switchFailed .restore (.os errno.byName) := by
  unfold moveBack Handle.descriptor at ran
  cases owns : home.descriptor? with
  | none =>
      rw [owns] at ran
      cases ran
      exact .inl ⟨rfl, rfl, rfl⟩
  | some own =>
      rw [owns] at ran
      obtain ⟨report, moved, moving, ranRest⟩ := Op.bind_ran.mp ran
      refine .inr ⟨own, report, rfl, ?_⟩
      rcases report with errno | ⟨⟩ <;> cases ranRest <;> exact ⟨moving, rfl⟩

/-- The state of a thread after the move back. -/
def stateAfter : Except Error Unit → SwitchState
  | .ok () => .idle
  | .error _ => .tainted

/-- The thread is moved back and its state is noted, and the handle is closed. -/
theorem restore_ran {restored : Except Error Unit} (ran : restore home before = (restored, after)) :
    ∃ (moved marked noted : Machine) (event : Log.Event), moveBack home before = (restored, moved) ∧
      marked.kernel = moved.kernel ∧
      marked.thread = { moved.thread with state := stateAfter restored } ∧
      Op.emit event marked = ((), noted) ∧ closeHome home noted = ((), after) := by
  obtain ⟨answer, moved, moving, ranRest⟩ := Op.bind_ran.mp ran
  rcases answer with e | ⟨⟩
  all_goals
    obtain ⟨⟨⟩, marked, ranMark, ranRest⟩ := Op.bind_ran.mp ranRest
    obtain ⟨⟨⟩, noted, ranNote, ranRest⟩ := Op.bind_ran.mp ranRest
    obtain ⟨⟨⟩, closed, closing, ranRest⟩ := Op.bind_ran.mp ranRest
    cases ranRest
    obtain ⟨kernel, thread⟩ := Op.setState_ran ranMark
    exact ⟨moved, marked, noted, _, moving, kernel, thread, ranNote, closing⟩

theorem restore_returns {restored : Except Error Unit} (owns : home.descriptor? = some own)
    (ran : restore home before = (restored, after)) : Returns before after own restored := by
  obtain ⟨moved, marked, noted, event, moving, kernel, thread, noting, closing⟩ := restore_ran ran
  have trails := (Op.emit_ran noting).trails.trans (closeHome_trails closing)
  rcases moveBack_ran moving with ⟨closed, -, -⟩ | ⟨_, report, owned, ranSetns, rfl⟩
  · cases owns.symm.trans closed
  cases owns.symm.trans owned
  obtain ⟨-, -, -, trace, effect⟩ := Syscall.setns_ran ranSetns
  rw [← kernel] at trace
  rcases effect with ⟨errno, rfl, unmoved⟩ | ⟨location, rfl, origin, arrived⟩
  · refine .stranded errno ?_ ?_
    · rw [trails.thread, thread, unmoved]
      rfl
    · rw [Syscall.noteOf] at trace
      exact trace ▸ trails.trace
  · refine .back location origin ?_ ?_
    · rw [trails.thread, thread, arrived]
      rfl
    · rw [Syscall.noteOf, origin] at trace
      exact trace ▸ trails.trace

/-- What a switch comes to, from what its code came to and the move back. -/
def settle [OfError ε] : Outcome π ε α → Except Error Unit → Outcome π ε α
  | .unwound payload, _ => .unwound payload
  | _, .error e => .failed (OfError.ofError e)
  | outcome, .ok () => outcome

/-- The thread is moved back whatever the code came to, and a value that was returned is thrown
away if that fails. -/
theorem leave_ran [OfError ε] [Owns α] {outcome settled : Outcome π ε α}
    (ran : leave home outcome before = (settled, after)) :
    ∃ (noted back : Machine) (restored : Except Error Unit), noted.kernel = before.kernel ∧
      noted.thread = before.thread ∧ restore home noted = (restored, back) ∧ settled = settle outcome restored ∧
      match outcome, restored with
      | .returned value, .error _ => discard value back = ((), after)
      | _, _ => back.Quiet after := by
  cases outcome with
  | unwound payload =>
      obtain ⟨⟨⟩, noted, ranEmit, ranRest⟩ := Op.bind_ran.mp ran
      obtain ⟨restored, back, restoring, ranRest⟩ := Op.bind_ran.mp ranRest
      cases ranRest
      refine ⟨noted, after, restored, ?_, (Op.emit_ran ranEmit).thread, restoring, rfl, .refl _⟩
      cases ranEmit
      rfl
  | returned value =>
      obtain ⟨restored, back, restoring, ranRest⟩ := Op.bind_ran.mp ran
      refine ⟨before, back, restored, rfl, rfl, restoring, ?_⟩
      rcases restored with e | ⟨⟩
      · obtain ⟨⟨⟩, last, ranDiscard, ranRest⟩ := Op.bind_ran.mp ranRest
        cases ranRest
        exact ⟨rfl, ranDiscard⟩
      · cases ranRest
        exact ⟨rfl, .refl _⟩
  | failed error =>
      obtain ⟨restored, back, restoring, ranRest⟩ := Op.bind_ran.mp ran
      refine ⟨before, back, restored, rfl, rfl, restoring, ?_⟩
      rcases restored with e | ⟨⟩
      · obtain ⟨⟨⟩, last, ranEmit, ranRest⟩ := Op.bind_ran.mp ranRest
        cases ranRest
        exact ⟨rfl, Op.emit_ran ranEmit⟩
      · cases ranRest
        exact ⟨rfl, .refl _⟩

/-- Leaving is going back, which nothing but a note comes before and nothing but a trail of closed handles
comes after. -/
theorem leave_restored [OfError ε] [Owns α] {outcome settled : Outcome π ε α}
    (ran : leave home outcome before = (settled, after)) :
    ∃ noted back restored, noted.kernel = before.kernel ∧ noted.thread = before.thread ∧
      restore home noted = (restored, back) ∧ settled = settle outcome restored ∧ back.Trails after := by
  obtain ⟨noted, back, restored, kernel, unmoved, restoring, settled, rest⟩ := leave_ran ran
  refine ⟨noted, back, restored, kernel, unmoved, restoring, settled, ?_⟩
  rcases outcome with value | error | payload
  · rcases restored with e | ⟨⟩
    · exact discard_trails rest
    · exact rest.trails
  · exact rest.trails
  · exact rest.trails

/-- Nothing but the move back and the outcome of the code decides what a switch comes to. -/
theorem leave_returns [OfError ε] [Owns α] {outcome settled : Outcome π ε α}
    (owns : home.descriptor? = some own) (ran : leave home outcome before = (settled, after)) :
    ∃ restored, Returns before after own restored ∧ settled = settle outcome restored := by
  obtain ⟨noted, back, restored, kernel, unmoved, restoring, settled, trails⟩ := leave_restored ran
  refine ⟨restored, ?_, settled⟩
  refine Returns.trans_trails ?_ trails
  cases restore_returns owns restoring with
  | back location origin thread moved =>
      rw [kernel] at origin moved
      exact .back location origin (by rw [thread, unmoved]) moved
  | stranded errno thread failed =>
      rw [kernel] at failed
      exact .stranded errno (by rw [thread, unmoved]) failed

end NetSwitch.Switch
