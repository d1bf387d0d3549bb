import NetSwitch.Device
import NetSwitch.Plugin.Request

/-! Programs of operations on namespaces.

A program is a sequence of actions; some of them run another program inside a
namespace or on a new thread.  The values that code inside a namespace returns
or fails with are of a type that nothing here looks into.
-/

namespace NetSwitch.Scenario

/-- Which thread runs code inside the namespace of a handle. -/
inductive Mode where
  /-- The running thread itself. -/
  | here
  /-- A worker that the running thread waits for. -/
  | onWorker
  /-- A worker with a handle of its own, which reports back. -/
  | detached
deriving DecidableEq, Repr

/-- How code inside a namespace is entered. -/
inductive Entry where
  /-- By a handle, which is lent for as long as the code runs. -/
  | byHandle (mode : Mode) (handle : String)
  | byPath (path : Path)
deriving DecidableEq, Repr

/-- How code inside a namespace fails: with an error of the library or with one of
its own. -/
inductive Failure (V : Type) where
  | library (error : Error)
  | own (value : V)
deriving DecidableEq, Repr

instance : OfError (Failure V) :=
  ⟨.library⟩

/-- How code inside a namespace ends if none of its actions ends it. -/
inductive Ending (V : Type) where
  | value (value : V)
  | failure (failure : Failure V)
  | panic (payload : String)
  /-- A handle is opened last, and returned for the caller to hold under a name. -/
  | opened (path : Path) (name : String)
deriving DecidableEq, Repr

/-- What is done about a device. -/
inductive DeviceAction where
  | set (state : LinkState)
  | query
deriving DecidableEq, Repr

mutual

/-- One action of a program. -/
inductive Action (V : Type) where
  | openPath (path : Path) (name : String)
  | openOwn (name : String)
  | openProcess (pid : UInt32) (name : String)
  | duplicate (handle name : String)
  | close (handle : String)
  | drop (handle : String)
  | info (handle : String)
  /-- Looks at the handle of the namespace that the innermost switch came from. -/
  | home
  | duplicateHome (name : String)
  | identity
  | device (device : Device) (action : DeviceAction)
  /-- Runs a program inside a namespace.  A panic that comes out of it is either
  noted or raised again. -/
  | runInside (entry : Entry) (program : Program V) (ending : Ending V) (resume : Bool)
  /-- Runs a program on a new thread. -/
  | thread (program : Program V)
  | plugin (request : Plugin.Request) (stdin : Bytes)
  /-- An invocation of the plugin that names no command of it. -/
  | badPlugin (error : Plugin.Error)
  | arm (fault : Kernel.Fault)
  | disarm
  | putFile (path : Path) (node : Kernel.Node)
  | removeFile (path : Path)
  | putDevice (location : String) (device : Kernel.Device)
  | removeDevice (location name : String)
  | dropPrivilege
  | unknown

/-- A sequence of actions.  One that is strict ends the program if it fails. -/
inductive Program (V : Type) where
  | done
  | step (strict : Bool) (action : Action V) (rest : Program V)

end

end NetSwitch.Scenario
