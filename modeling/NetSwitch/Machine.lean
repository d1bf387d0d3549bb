import NetSwitch.Kernel
import NetSwitch.Log

/-! A thread at work: the kernel, the thread that is running, and the log.

Only one thread runs at a time.  A worker is the running thread for as long as
it works, and whoever waits for it is the running thread again afterwards.
-/

namespace NetSwitch

/-- Whether a thread has been moved to another namespace. -/
inductive SwitchState where
  | idle
  | switched
  /-- The thread could not be brought back. -/
  | tainted
deriving DecidableEq, Repr

/-- A thread: the namespace it is in, whether it is privileged, and whether it
has been moved. -/
structure Thread where
  location : String
  privileged : Bool := true
  state : SwitchState := .idle
deriving DecidableEq, Repr

/-- A new thread: it inherits where it is and what it may do, and it has not been moved. -/
def Thread.spawned (parent : Thread) : Thread :=
  { parent with state := .idle }

/-- The machine that an operation finds and leaves. -/
structure Machine where
  kernel : Kernel
  thread : Thread
  log : List Log.Event := []
deriving DecidableEq, Repr

/-- A machine at rest with a single namespace, in which the loopback device is up. -/
def Machine.host : Machine where
  kernel := { namespaces := [⟨"host", ⟨4026531840⟩, [⟨"lo", 73⟩]⟩] }
  thread := { location := "host" }

/-- What the running thread does to the machine. -/
abbrev Op := StateM Machine

namespace Op

def kernel : Op Kernel :=
  return (← get).kernel

def thread : Op Thread :=
  return (← get).thread

def modifyKernel (change : Kernel → Kernel) : Op Unit :=
  modify fun machine => { machine with kernel := change machine.kernel }

def setState (state : SwitchState) : Op Unit :=
  modify fun machine => { machine with thread := { machine.thread with state } }

def moveTo (location : String) : Op Unit :=
  modify fun machine => { machine with thread := { machine.thread with location } }

def dropPrivilege : Op Unit :=
  modify fun machine => { machine with thread := { machine.thread with privileged := false } }

def emit (event : Log.Event) : Op Unit :=
  modify fun machine => { machine with log := machine.log ++ [event] }

end Op

end NetSwitch
