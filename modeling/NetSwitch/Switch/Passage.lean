import NetSwitch.Handle
import NetSwitch.Switch.Outcome

/-! The two halves of a switch: entering a namespace and going back. -/

namespace NetSwitch.Switch

/-- Closes the handle of the namespace that a thread came from.  An error of doing
so is only logged. -/
def closeHome (home : Handle) : Op Unit := do
  match ← home.close with
  | .ok () => return
  | .error e =>
      Op.emit ⟨.warn, .switch, "failed to close original namespace handle",
        [("error", .text e.message)]⟩

/-- Moves the thread into a namespace.  The result is a handle of the namespace
that the thread came from. -/
def enter (destination : Handle) : Op (Except Error Handle) := do
  match (← Op.thread).state with
  | .switched => return .error .reentrant
  | .tainted => return .error .threadTainted
  | .idle =>
      match destination.descriptor with
      | .error e => return .error e
      | .ok descriptor =>
          match ← Handle.openOwn with
          | .error e => return .error e
          | .ok home =>
              match ← Syscall.setns descriptor with
              | .error errno =>
                  let e := Error.switchFailed .enter (.os errno.byName)
                  Op.emit ⟨.debug, .switch, "enter failed",
                    [("target", .text destination.id.display), ("error", .text e.message)]⟩
                  closeHome home
                  return .error e
              | .ok () =>
                  Op.setState .switched
                  Op.emit ⟨.debug, .switch, "entered network namespace",
                    [("from", .text home.id.display), ("to", .text destination.id.display),
                      ("path", .text destination.path.display)]⟩
                  return .ok home

/-- Moves the thread back.  Only the move decides the result. -/
def moveBack (home : Handle) : Op (Except Error Unit) := do
  match home.descriptor with
  | .error e => return .error e
  | .ok descriptor =>
      match ← Syscall.setns descriptor with
      | .error errno => return .error (.switchFailed .restore (.os errno.byName))
      | .ok () => return .ok ()

/-- Moves the thread back and closes the handle of where it came from.  A thread
that cannot be moved back is tainted. -/
def restore (home : Handle) : Op (Except Error Unit) := do
  let restored ← moveBack home
  match restored with
  | .ok () =>
      Op.setState .idle
      Op.emit ⟨.debug, .switch, "restored network namespace", [("to", .text home.id.display)]⟩
  | .error e =>
      Op.setState .tainted
      Op.emit ⟨.error, .switch, "failed to restore network namespace; thread is now tainted",
        [("original", .text home.id.display), ("error", .text e.message)]⟩
  closeHome home
  return restored

/-- The outcome of a switch whose code came to `outcome`: failing to go back comes
before everything else, and a value that was returned is thrown away. -/
def afterReturn [OfError ε] [Owns α] (outcome : Outcome π ε α) (restored : Except Error Unit) :
    Op (Outcome π ε α) := do
  match restored, outcome with
  | .ok (), outcome => return outcome
  | .error e, .returned value =>
      discard value
      return .failed (OfError.ofError e)
  | .error e, .failed _ =>
      Op.emit ⟨.error, .switch, "callback error discarded in favour of restore failure", []⟩
      return .failed (OfError.ofError e)
  | .error e, .unwound _ => return .failed (OfError.ofError e)

/-- Leaves a switch by returning or by unwinding.  Unwinding goes on, whatever
becomes of the move back. -/
def leave [OfError ε] [Owns α] (home : Handle) (outcome : Outcome π ε α) : Op (Outcome π ε α) := do
  match outcome with
  | .unwound payload =>
      Op.emit ⟨.warn, .switch, "restoring network namespace while unwinding", []⟩
      let _ ← restore home
      return .unwound payload
  | outcome => afterReturn outcome (← restore home)

end NetSwitch.Switch
