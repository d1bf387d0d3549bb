import NetSwitch.Plugin.Invocation
import NetSwitch.Scenario.Answer
import NetSwitch.Scenario.Registry

/-! Running programs. -/

namespace NetSwitch.Scenario

/-- What a program keeps besides the machine: the handles it holds, and what the
actions of the last code inside a namespace answered. -/
structure Session (V : Type) where
  registry : Registry := {}
  inner : Option (List (Answer V)) := none

def Session.fresh : Session V :=
  {}

/-- What a running program does. -/
abbrev Run (V : Type) := Task (Session V)

/-- What comes of an action: an answer, with the failure that ends a strict action's
program, or a panic. -/
inductive Reaction (V : Type) where
  | answered (content : Content V) (failure : Option (Failure V))
  | unwound (payload : String)

/-- How a program ends: with nothing to say, with a failure, or by a panic. -/
abbrev Flow (V : Type) := Outcome String (Failure V) Unit

namespace Run

def registry : Run V Registry :=
  return (← get).2.registry

def modifyRegistry (change : Registry → Registry) : Run V Unit :=
  modify fun (machine, session) =>
    (machine, { session with registry := change session.registry })

def inner : Run V (Option (List (Answer V))) :=
  return (← get).2.inner

def setInner (inner : Option (List (Answer V))) : Run V Unit :=
  modify fun (machine, session) => (machine, { session with inner })

end Run

def answer (content : Content V) : Run V (Reaction V) :=
  return .answered content none

def react (outcome : Except Error α) (content : α → Content V) : Reaction V :=
  match outcome with
  | .ok value => .answered (content value) none
  | .error e => .answered (.failed e) (some (.library e))

/-- Changes the handles that are held, and drops one that is let go of. -/
def exchange (change : Registry → Option Handle × Registry) : Run V Unit := do
  let (released, registry) := change (← Run.registry)
  Run.modifyRegistry fun _ => registry
  if let some handle := released then Task.ofOp handle.drop

def hold (name : String) (handle : Handle) : Run V Unit :=
  exchange (·.place name handle)

/-- The reaction to an operation that makes a handle, which is held under a name. -/
def holdNew (name : String) (op : Op (Except Error Handle)) : Run V (Reaction V) := do
  let made ← Task.ofOp op
  if let .ok handle := made then hold name handle
  return react made fun handle => .handle (Info.of handle)

def withSlot (name : String) (use : Slot → Run V (Reaction V)) : Run V (Reaction V) := do
  match (← Run.registry).slot? name with
  | none => answer .noHandle
  | some slot => use slot

/-- Does something with the handle of a name that is not lent. -/
def withOwnSlot (name : String) (use : Slot → Run V (Reaction V)) : Run V (Reaction V) :=
  withSlot name fun slot => if slot.lent = 0 then use slot else answer .busy

/-- Closes a handle, which stays in its slot. -/
def closeSlot (slot : Slot) : Run V (Reaction V) := do
  let closed ← Task.ofOp slot.handle.close
  Run.modifyRegistry (·.update slot.key fun slot => { slot with handle := slot.handle.closed })
  return react closed fun () => .handle (Info.of slot.handle.closed)

def dropSlot (slot : Slot) : Run V (Reaction V) := do
  Run.modifyRegistry (·.remove slot.key)
  Task.ofOp slot.handle.drop
  answer .done

def lending (slot : Slot) (run : Run V α) : Run V α := do
  Run.modifyRegistry (·.lend slot.key)
  let value ← run
  exchange (·.takeBack slot.key)
  return value

def actOnDevice (device : Device) : DeviceAction → Run V (Reaction V)
  | .set state =>
      return react (← Task.ofOp (device.bring state)) fun () => .deviceSet device
  | .query => return react (← Task.ofOp device.state) fun state => .deviceState device state

/-- The reaction to an invocation of the plugin, which never ends a program. -/
def invokePlugin (request : Plugin.Request) (stdin : Bytes) : Run V (Reaction V) := do
  match ← Task.ofOp (Plugin.run request stdin) with
  | .ok reply => answer (.replied reply)
  | .error e =>
      let version := (Plugin.Configuration.read stdin).version
      answer (.pluginFailed e (some (Json.encode (Plugin.ErrorReport.ofError version e))))

/-- What code inside a namespace returns: a value, or a handle for its caller to hold
under a name. -/
inductive Yield (V : Type) where
  | value (value : V)
  | handle (handle : Handle) (name : String)

instance : Owns (Yield V) where
  handles
    | .value _ => []
    | .handle handle _ => [handle]

/-- What code inside a namespace comes to. -/
abbrev Result (V : Type) := Outcome String (Failure V) (Yield V)

def endWith : Ending V → Op (Result V)
  | .value value => return .returned (.value value)
  | .failure failure => return .failed failure
  | .panic payload => return .unwound payload
  | .opened path name => do
      match ← Handle.openPath path with
      | .ok handle => return .returned (.handle handle name)
      | .error e => return .failed (.library e)

/-- What code inside a namespace comes to once its program has ended. -/
def conclude (ending : Ending V) : Flow V → Op (Result V)
  | .failed failure => return .failed failure
  | .unwound payload => return .unwound payload
  | .returned () => endWith ending

/-- Code that runs a program inside a namespace and notes what its actions answered. -/
def programBody (ending : Ending V) (run : Handle → Run V (List (Answer V) × Flow V)) :
    Switch.Body (Session V) String (Failure V) (Yield V) := fun home => do
  let (answers, flow) ← run home
  Run.setInner (some answers)
  Task.ofOp (conclude ending flow)

def enterBy (mode : Mode) (destination : Handle)
    (body : Switch.Body (Session V) String (Failure V) (Yield V)) : Run V (Result V) :=
  match mode with
  | .here => Switch.run destination body
  | .onWorker => Switch.runOnWorker destination body
  | .detached => Switch.runDetached destination body

def reactTo (resume : Bool) (inner : Option (List (Answer V))) : Result V → Run V (Reaction V)
  | .returned (.value value) => answer (.ranInside inner (.returned value))
  | .returned (.handle handle name) => do
      hold name handle
      answer (.handle (Info.of handle))
  | .failed failure => return .answered (.ranInside inner (.failed failure)) (some failure)
  | .unwound payload =>
      if resume then return .unwound payload
      else answer (.ranInside inner (.unwound payload))

def reactToSwitch (resume : Bool) (run : Run V (Result V)) : Run V (Reaction V) := do
  Run.setInner none
  let outcome ← run
  reactTo resume (← Run.inner) outcome

def runEntry (entry : Entry) (resume : Bool)
    (body : Switch.Body (Session V) String (Failure V) (Yield V)) : Run V (Reaction V) :=
  match entry with
  | .byPath path => reactToSwitch resume (Switch.runAtPath path body)
  | .byHandle mode name =>
      withSlot name fun slot =>
        lending slot (reactToSwitch resume (enterBy mode slot.handle body))

def reactToThread : List (Answer V) × Flow V → Reaction V
  | (_, .unwound payload) => .unwound payload
  | (answers, _) => .answered (.thread answers) none

def change (f : Kernel → Kernel) : Run V (Reaction V) := do
  Task.ofOp (Op.modifyKernel f)
  answer .done

def changeFile (path : Path) (f : Kernel → Kernel) : Run V (Reaction V) := do
  let kernel ← Task.ofOp Op.kernel
  Task.ofOp (Op.modifyKernel f)
  answer (.existed (kernel.hasFile path))

def observe (content : Content V) : Run V (Answer V) := do
  let thread ← Task.ofOp Op.thread
  let kernel ← Task.ofOp Op.kernel
  return ⟨content, thread.location, kernel.descriptors.length⟩

mutual

/-- Runs an action.  `home` is the handle of the namespace that the innermost
switch came from. -/
def Action.run : Action V → Option Handle → Run V (Reaction V)
  | .openPath path name, _ => holdNew name (Handle.openPath path)
  | .openOwn name, _ => holdNew name Handle.openOwn
  | .openProcess pid name, _ => holdNew name (Handle.openProcess pid)
  | .duplicate handle name, _ => withSlot handle fun slot => holdNew name slot.handle.duplicate
  | .close handle, _ => withOwnSlot handle closeSlot
  | .drop handle, _ => withOwnSlot handle dropSlot
  | .info handle, _ => withSlot handle fun slot => answer (.handle (Info.of slot.handle))
  | .home, none => answer .noHandle
  | .home, some home => answer (.handle (Info.of home))
  | .duplicateHome _, none => answer .noHandle
  | .duplicateHome name, some home => holdNew name home.duplicate
  | .identity, _ => do return react (← Task.ofOp ownIdentity) .identity
  | .device device action, _ => actOnDevice device action
  | .runInside entry program ending resume, _ =>
      runEntry entry resume (programBody ending fun home => program.run (some home))
  | .thread program, home => do
      return reactToThread (← Task.onNewThread (program.run home))
  | .plugin request stdin, _ => invokePlugin request stdin
  | .badPlugin error, _ => answer (.pluginFailed error none)
  | .arm fault, _ => change (·.arm fault)
  | .disarm, _ => change (·.disarm)
  | .putFile path node, _ => changeFile path (·.putFile path node)
  | .removeFile path, _ => changeFile path (·.removeFile path)
  | .putDevice location device, _ => change (·.putDevice location device)
  | .removeDevice location name, _ => change (·.removeDevice location name)
  | .dropPrivilege, _ => do
      Task.ofOp Op.dropPrivilege
      answer .done
  | .unknown, _ => answer .unknown

/-- Runs a program: the answers of its actions, and how it ends. -/
def Program.run : Program V → Option Handle → Run V (List (Answer V) × Flow V)
  | .done, _ => return ([], .returned ())
  | .step strict action rest, home => do
      match ← action.run home with
      | .unwound payload => return ([], .unwound payload)
      | .answered content failure =>
          let answered ← observe content
          match strict, failure with
          | true, some failure => return ([answered], .failed failure)
          | _, _ =>
              let (answers, flow) ← rest.run home
              return (answered :: answers, flow)

end

/-- Runs a program on a fresh thread of a machine: its answers and the machine
afterwards, with the handles that are still held. -/
def Program.start (program : Program V) (machine : Machine) : List (Answer V) × Machine :=
  let ((answers, _), machine, _) := program.run none (machine, .fresh)
  (answers, machine)

end NetSwitch.Scenario
