import NetSwitch.Switch.Passage

/-! Running code inside another network namespace.

A switch moves only the thread that makes it.  `run` switches the running
thread; `runOnWorker` and `runDetached` leave it alone and switch a worker.
The code that runs inside gets a handle of the namespace its thread came from.
-/

namespace NetSwitch.Switch

/-- Code that is run inside a namespace, given a handle of where its thread came from. -/
abbrev Body (σ π ε α : Type) := Handle → Task σ (Outcome π ε α)

/-- Runs code with the running thread moved into a namespace, and moves it back
however the code ends. -/
def run [OfError ε] [Owns α] (destination : Handle) (body : Body σ π ε α) : Task σ (Outcome π ε α) := do
  match ← Task.ofOp (enter destination) with
  | .error e => return .failed (OfError.ofError e)
  | .ok home =>
      let outcome ← body home
      Task.ofOp (leave home outcome)

/-- The outcome of code and of closing what it was run with: an error of closing
counts only if nothing else went wrong, and a value that was returned is thrown
away for it. -/
def withClosing [OfError ε] [Owns α] (outcome : Outcome π ε α) (closed : Except Error Unit) :
    Op (Outcome π ε α) := do
  match outcome, closed with
  | .returned value, .error e =>
      discard value
      return .failed (OfError.ofError e)
  | outcome, _ => return outcome

/-- The end of a run that owns its handle: the handle is closed, or dropped by
unwinding. -/
def closeAfter [OfError ε] [Owns α] (handle : Handle) (outcome : Outcome π ε α) : Op (Outcome π ε α) := do
  match outcome with
  | .unwound payload =>
      handle.drop
      return .unwound payload
  | outcome => withClosing outcome (← handle.close)

def spawnFor (destination : Handle) : Op (Except Error Unit) := do
  match ← Syscall.spawn with
  | .ok () => return .ok ()
  | .error errno => return .error (Handle.failure destination.path errno)

/-- Runs `run` on a worker and waits for it.  If the code is unwound, so is
the running thread. -/
def runOnWorker [OfError ε] [Owns α] (destination : Handle) (body : Body σ π ε α) :
    Task σ (Outcome π ε α) := do
  match ← Task.ofOp (spawnFor destination) with
  | .error e => return .failed (OfError.ofError e)
  | .ok () => Task.onNewThread (run destination body)

/-- What a worker reports: nothing of a panic but that there was one. -/
def report [OfError ε] : Outcome π ε α → Outcome π ε α
  | .unwound _ => .failed (OfError.ofError .workerPanicked)
  | outcome => outcome

/-- Runs `run` on a worker that has a handle of its own and reports back. -/
def runDetached [OfError ε] [Owns α] (destination : Handle) (body : Body σ π ε α) :
    Task σ (Outcome π ε α) := do
  match ← Task.ofOp destination.duplicate with
  | .error e => return .failed (OfError.ofError e)
  | .ok copy =>
      match ← Task.ofOp (spawnFor destination) with
      | .error e =>
          Task.ofOp copy.drop
          return .failed (OfError.ofError e)
      | .ok () =>
          Task.onNewThread do
            let outcome ← run copy body
            return report (← Task.ofOp (closeAfter copy outcome))

/-- Opens the namespace at a path, runs `run` with it, and closes it. -/
def runAtPath [OfError ε] [Owns α] (path : Path) (body : Body σ π ε α) : Task σ (Outcome π ε α) := do
  match ← Task.ofOp (Handle.openPath path) with
  | .error e => return .failed (OfError.ofError e)
  | .ok destination =>
      let outcome ← run destination body
      Task.ofOp (closeAfter destination outcome)

end NetSwitch.Switch
