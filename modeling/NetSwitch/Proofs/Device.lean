import NetSwitch.Proofs.Syscall
import NetSwitch.Device

/-! Operations on devices leave their thread and the descriptors as they were, and never
report that a thread could not be moved back. -/

namespace NetSwitch.Device

open Kernel (Descriptor)

variable {device : Device} {descriptor : Descriptor} {before after : Machine}

theorem requestFailure_not_restore {request : String} {errno : Errno} :
    (device.requestFailure request errno).isRestoreFailure = false := by
  unfold requestFailure
  repeat' split
  all_goals rfl

theorem errors_of_error {e : Error} (other : e.isRestoreFailure = false) :
    ∀ found, (.error e : Except Error α) = .error found → found.isRestoreFailure = false := by
  intro found same
  cases same
  exact other

/-- What an operation with a control socket comes to: errors are those of the operation
or of making the socket, and the socket is closed. -/
theorem withSocket_ran {use : Descriptor → Op (Except Error α)} {answer : Except Error α}
    (uses : ∀ {socket before answer after}, socket ∈ before.kernel.opened →
      use socket before = (answer, after) →
      before.Quiet after ∧ ∀ e, answer = .error e → e.isRestoreFailure = false)
    (ran : withSocket use before = (answer, after)) :
    before.Quiet after ∧ ∀ e, answer = .error e → e.isRestoreFailure = false := by
  obtain ⟨found, middle, ranSocket, ranRest⟩ := Op.bind_ran.mp ran
  rcases Syscall.socket_ran ranSocket with ⟨errno, rfl, quiet⟩ | ⟨socket, object, -, rfl, makes⟩
  · cases ranRest
    exact ⟨quiet, errors_of_error rfl⟩
  · obtain ⟨outcome, used, ranUse, ranRest⟩ := Op.bind_ran.mp ranRest
    obtain ⟨closed, last, ranClose, ranRest⟩ := Op.bind_ran.mp ranRest
    obtain ⟨quiet, errors⟩ := uses makes.mem_opened ranUse
    have made := makes.trans_quiet quiet
    cases ranRest
    exact ⟨made.trans_close (Syscall.close_works made.mem_opened ranClose), errors⟩

theorem readFlags_ran {answer : Except Error (Kernel.NameField × UInt16)}
    (isOpen : descriptor ∈ before.kernel.opened)
    (ran : device.readFlags descriptor before = (answer, after)) :
    before.Quiet after ∧ ∀ e, answer = .error e → e.isRestoreFailure = false := by
  unfold readFlags Device.field at ran
  cases named : device.field? with
  | none =>
      rw [named] at ran
      cases ran
      exact ⟨.refl _, errors_of_error rfl⟩
  | some field =>
      rw [named] at ran
      obtain ⟨found, middle, ranGet, ranRest⟩ := Op.bind_ran.mp ran
      have quiet := Syscall.getFlags_quiet isOpen ranGet
      rcases found with errno | flags
      · cases ranRest
        exact ⟨quiet, errors_of_error requestFailure_not_restore⟩
      · cases ranRest
        exact ⟨quiet, by simp⟩

theorem state_ran {answer : Except Error LinkState} (ran : device.state before = (answer, after)) :
    before.Quiet after ∧ ∀ e, answer = .error e → e.isRestoreFailure = false := by
  refine withSocket_ran (fun {socket before answer after} isOpen ranUse => ?_) ran
  obtain ⟨found, middle, ranRead, ranRest⟩ := Op.bind_ran.mp ranUse
  obtain ⟨quiet, errors⟩ := readFlags_ran isOpen ranRead
  rcases found with e | ⟨field, flags⟩
  · cases ranRest
    exact ⟨quiet, errors_of_error (errors e rfl)⟩
  · cases ranRest
    exact ⟨quiet, by simp⟩

theorem bring_ran {desired : LinkState} {answer : Except Error Unit}
    (ran : device.bring desired before = (answer, after)) :
    before.Quiet after ∧ ∀ e, answer = .error e → e.isRestoreFailure = false := by
  refine withSocket_ran (fun {socket before answer after} isOpen ranUse => ?_) ran
  obtain ⟨found, middle, ranRead, ranRest⟩ := Op.bind_ran.mp ranUse
  obtain ⟨quiet, errors⟩ := readFlags_ran isOpen ranRead
  rcases found with e | ⟨field, flags⟩
  · cases ranRest
    exact ⟨quiet, errors_of_error (errors e rfl)⟩
  · dsimp only at ranRest
    by_cases same : stateOf flags = desired
    · rw [if_pos same] at ranRest
      obtain ⟨⟨⟩, last, ranEmit, ranRest⟩ := Op.bind_ran.mp ranRest
      cases ranRest
      exact ⟨quiet.trans (Op.emit_ran ranEmit), by simp⟩
    · rw [if_neg same] at ranRest
      obtain ⟨written, last, ranSet, ranRest⟩ := Op.bind_ran.mp ranRest
      have quietSet := Syscall.setFlags_quiet (quiet.opened ▸ isOpen) ranSet
      rcases written with errno | ⟨⟩
      · cases ranRest
        exact ⟨quiet.trans quietSet, errors_of_error requestFailure_not_restore⟩
      · obtain ⟨⟨⟩, final, ranEmit, ranRest⟩ := Op.bind_ran.mp ranRest
        cases ranRest
        exact ⟨(quiet.trans quietSet).trans (Op.emit_ran ranEmit), by simp⟩

end NetSwitch.Device
