import NetSwitch.Machine

/-! Code that is run on behalf of others: what comes of it and what it may touch. -/

namespace NetSwitch

/-- What a piece of code comes to: it returns a value, fails with an error, or is
unwound by a panic.  Code without a payload to panic with is never unwound. -/
inductive Outcome (π ε α : Type) where
  | returned (value : α)
  | failed (error : ε)
  | unwound (payload : π)
deriving DecidableEq, Repr

namespace Outcome

def ofExcept : Except ε α → Outcome π ε α
  | .ok value => .returned value
  | .error e => .failed e

def toExcept : Outcome Empty ε α → Except ε α
  | .returned value => .ok value
  | .failed e => .error e

end Outcome

/-- Code that runs on the machine and has things of its own to look after. -/
abbrev Task (σ : Type) := StateM (Machine × σ)

namespace Task

/-- An operation of the library, which leaves alone what is not the machine's. -/
def ofOp (op : Op α) : Task σ α := fun (machine, own) =>
  let (value, machine) := op machine
  (value, machine, own)

def alone (task : Task Unit α) : Op α := fun machine =>
  let (value, machine, ()) := task (machine, ())
  (value, machine)

/-- Runs code as a new thread, and goes on as the running thread when it is done. -/
def onNewThread (task : Task σ α) : Task σ α := fun (machine, own) =>
  let (value, worker, own) := task ({ machine with thread := machine.thread.spawned }, own)
  (value, { worker with thread := machine.thread }, own)

end Task

end NetSwitch
