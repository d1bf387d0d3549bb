import NetSwitch.Machine

/-! The system calls.

Every call meets the armed faults first.  One that makes it fail keeps it from
doing anything, except that a descriptor is released by closing it whether or
not the call fails.  Every call leaves an entry in the trace.
-/

namespace NetSwitch.Syscall

open Kernel

/-- Lets the armed faults have their say about a call of a kind. -/
def meetFaults (kind : CallKind) : Op (Option Errno) := do
  let (errno, faults) := Fault.meet kind (← Op.kernel).faults
  Op.modifyKernel fun kernel => { kernel with faults }
  return errno

def record (entry : Entry) : Op Unit :=
  Op.modifyKernel fun kernel => { kernel with trace := kernel.trace ++ [entry] }

/-- Makes a call that answers with a value if no fault keeps it from it. -/
def request (call : Call) (report : α → Report) (serve : Op (Except Errno α)) :
    Op (Except Errno α) := do
  let answer ← match ← meetFaults call.kind with
    | some errno => pure (.error errno)
    | none => serve
  record ⟨call, match answer with
    | .ok value => report value
    | .error errno => .failed errno⟩
  return answer

def allocate (object : Object) : Op Descriptor := do
  let (descriptor, kernel) := (← Op.kernel).allocate object
  Op.modifyKernel fun _ => kernel
  return descriptor

def openOnce (path : Path) : Op (Except Errno Descriptor) :=
  request (.openFile path) .made do
    match (← Op.kernel).node? (← Op.thread).location path with
    | none => return .error .noEntry
    | some (.failing errno) => return .error errno
    | some .plain => return .ok (← allocate .plain)
    | some (.namespaceFile file) => return .ok (← allocate (.namespaceFile file))

/-- Opens a file, and again for a number of times if it is interrupted. -/
def openAgain (path : Path) : Nat → Op (Except Errno Descriptor)
  | 0 => openOnce path
  | times + 1 => do
      match ← openOnce path with
      | .ok descriptor => return .ok descriptor
      | .error errno =>
          if errno = .interrupted then openAgain path times else return .error errno

/-- Opens a file.  An interrupted call is made again.  Once no fault is left that
could take notice of the call, it would be interrupted for ever, and that is
what is answered. -/
def openFile (path : Path) : Op (Except Errno Descriptor) := do
  openAgain path (Fault.patience .openFile (← Op.kernel).faults)

/-- Whether a descriptor is one of a namespace file. -/
def fstatfs (descriptor : Descriptor) : Op (Except Errno Bool) :=
  request (.fstatfs descriptor) (fun _ => .ok) do
    match (← Op.kernel).object? descriptor with
    | some (.namespaceFile _) => return .ok true
    | some _ => return .ok false
    | none => return .error .badDescriptor

def nstype (descriptor : Descriptor) : Op (Except Errno Int) :=
  request (.nstype descriptor) (fun _ => .ok) do
    match (← Op.kernel).object? descriptor with
    | some (.namespaceFile file) =>
        match file.typeError with
        | some errno => return .error errno
        | none => return .ok file.type
    | some _ => return .error .notATerminal
    | none => return .error .badDescriptor

def fstat (descriptor : Descriptor) : Op (Except Errno UInt64) :=
  request (.fstat descriptor) (fun _ => .ok) do
    let kernel ← Op.kernel
    match kernel.object? descriptor with
    | some (.namespaceFile file) => return .ok (kernel.inode file.target)
    | some _ => return .ok 1
    | none => return .error .badDescriptor

def stat (path : Path) : Op (Except Errno UInt64) :=
  request (.stat path) (fun _ => .ok) do
    let kernel ← Op.kernel
    match kernel.node? (← Op.thread).location path with
    | none => return .error .noEntry
    | some (.failing errno) => return .error errno
    | some .plain => return .ok 1
    | some (.namespaceFile file) => return .ok (kernel.inode file.target)

def dup (descriptor : Descriptor) : Op (Except Errno Descriptor) :=
  request (.dup descriptor) .made do
    match (← Op.kernel).object? descriptor with
    | some object => return .ok (← allocate object)
    | none => return .error .badDescriptor

/-- Closes a descriptor.  It is gone afterwards, whatever the answer. -/
def close (descriptor : Descriptor) : Op (Except Errno Unit) := do
  let isOpen := ((← Op.kernel).object? descriptor).isSome
  Op.modifyKernel (·.release descriptor)
  request (.close descriptor) (fun _ => .ok) do
    return if isOpen then .ok () else .error .badDescriptor

/-- Moves the running thread into the network namespace that a descriptor stands
for.  The thread must be privileged. -/
def setns (descriptor : Descriptor) : Op (Except Errno Unit) := do
  let target := (← Op.kernel).network? descriptor
  request (.setns descriptor target) (fun _ => .ok) do
    match target with
    | none => return .error .invalidArgument
    | some location =>
        if (← Op.thread).privileged then
          Op.moveTo location
          return .ok ()
        else return .error .notPermitted

def socket : Op (Except Errno Descriptor) :=
  request .socket .made do
    return .ok (← allocate (.socket (← Op.thread).location))

def getFlags (descriptor : Descriptor) (field : NameField) : Op (Except Errno UInt16) :=
  request (.getFlags descriptor field) (fun _ => .ok) do
    let kernel ← Op.kernel
    match kernel.object? descriptor with
    | some (.socket bound) =>
        match kernel.flags? bound field.name with
        | some flags => return .ok flags
        | none => return .error .noDevice
    | _ => return .error .badDescriptor

/-- Sets the flags of a device in the namespace of a control socket.  The thread
must be privileged. -/
def setFlags (descriptor : Descriptor) (field : NameField) (flags : UInt16) :
    Op (Except Errno Unit) :=
  request (.setFlags descriptor field flags) (fun _ => .ok) do
    let kernel ← Op.kernel
    match kernel.object? descriptor with
    | some (.socket bound) =>
        if (kernel.flags? bound field.name).isNone then return .error .noDevice
        else if (← Op.thread).privileged then
          Op.modifyKernel (·.setFlags bound field.name flags)
          return .ok ()
        else return .error .notPermitted
    | _ => return .error .badDescriptor

def spawn : Op (Except Errno Unit) :=
  request .spawn (fun _ => .ok) do
    return .ok ()

end NetSwitch.Syscall
