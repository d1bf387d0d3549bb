import NetSwitch.Error
import NetSwitch.Kernel.Syscall

/-! Handles: references to network namespaces that are held open. -/

namespace NetSwitch

open Kernel (Descriptor)

/-- An open network namespace.  The handle owns its descriptor until it is closed;
its identity and its path stay known after that. -/
structure Handle where
  descriptor? : Option Descriptor
  id : NamespaceId
  path : Path
deriving DecidableEq, Repr

namespace Handle

def isClosed (handle : Handle) : Bool :=
  handle.descriptor?.isNone

def closed (handle : Handle) : Handle :=
  { handle with descriptor? := none }

def descriptor (handle : Handle) : Except Error Descriptor :=
  match handle.descriptor? with
  | some descriptor => .ok descriptor
  | none => .error (.handleClosed handle.path)

def fields (handle : Handle) : List (String × Log.Value) :=
  [("path", .text handle.path.display), ("id", .text handle.id.display)]

/-- An error of a call that keeps its number. -/
def failure (path : Path) (errno : Errno) : Error :=
  .io path (.os errno)

def openFailure (path : Path) (errno : Errno) : Error :=
  if errno = .noEntry then .notFound path.display
  else if errno = .notPermitted ∨ errno = .accessDenied then
    .permissionDenied ("open " ++ path.display ++ ": " ++ errno.message)
  else .io path (.os errno)

/-- Whether an open file is a network namespace.  A kernel that cannot tell the
type of a namespace file is believed to mean a network namespace.  A type of -1
looks like a failure without a number. -/
def isNetwork (descriptor : Descriptor) : Op (Except Errno Bool) := do
  match ← Syscall.fstatfs descriptor with
  | .error errno => return .error errno.byName
  | .ok false => return .ok false
  | .ok true =>
      match ← Syscall.nstype descriptor with
      | .ok type =>
          if type = -1 then return .error ⟨0⟩ else return .ok (type = Kernel.networkType)
      | .error errno =>
          if errno = .notATerminal then return .ok true else return .error errno.byName

def identify (path : Path) (descriptor : Descriptor) : Op (Except Error NamespaceId) := do
  match ← isNetwork descriptor with
  | .error errno => return .error (failure path errno)
  | .ok false => return .error (.notFound path.display)
  | .ok true =>
      match ← Syscall.fstat descriptor with
      | .error errno => return .error (failure path errno)
      | .ok inode => return .ok ⟨inode⟩

/-- Makes a handle of a file that has just been opened, or closes it if it is no
network namespace. -/
def adopt (path : Path) (descriptor : Descriptor) : Op (Except Error Handle) := do
  match ← identify path descriptor with
  | .error e =>
      let _ ← Syscall.close descriptor
      return .error e
  | .ok id =>
      let handle : Handle := ⟨some descriptor, id, path⟩
      Op.emit ⟨.debug, .handle, "opened network namespace", handle.fields⟩
      return .ok handle

/-- Opens the network namespace at a path.  A path with a zero byte in it is not
shown to the system. -/
def openPath (path : Path) : Op (Except Error Handle) :=
  if path.contains 0 then
    return .error (.io path (.other "file name contained an unexpected NUL byte"))
  else do
    match ← Syscall.openFile path with
    | .error errno => return .error (openFailure path errno)
    | .ok descriptor => adopt path descriptor

def openOwn : Op (Except Error Handle) :=
  openPath Path.threadSelf

def openProcess (pid : UInt32) : Op (Except Error Handle) :=
  openPath (Path.ofProcess pid)

/-- A second handle on the same namespace, with a descriptor of its own. -/
def duplicate (handle : Handle) : Op (Except Error Handle) := do
  match handle.descriptor with
  | .error e => return .error e
  | .ok descriptor =>
      match ← Syscall.dup descriptor with
      | .error errno => return .error (failure handle.path errno)
      | .ok copy => return .ok { handle with descriptor? := some copy }

/-- Closes a handle; `handle.closed` is what is left of it.  Closing it again does
nothing. -/
def close (handle : Handle) : Op (Except Error Unit) := do
  match handle.descriptor? with
  | none => return .ok ()
  | some descriptor =>
      match ← Syscall.close descriptor with
      | .error errno => return .error (failure handle.path errno.byName)
      | .ok () =>
          Op.emit ⟨.debug, .handle, "closed network namespace", handle.fields⟩
          return .ok ()

/-- Gives a handle up.  If it is still open, its descriptor is closed, and an error
of doing so is lost. -/
def drop (handle : Handle) : Op Unit := do
  match handle.descriptor? with
  | none => return
  | some descriptor =>
      Op.emit ⟨.debug, .handle, "namespace handle dropped without close", handle.fields⟩
      let _ ← Syscall.close descriptor

def dropAll : List Handle → Op Unit
  | [] => return
  | handle :: rest => do
      handle.drop
      dropAll rest

end Handle

/-- Values that may own handles.  Whoever throws such a value away gives up the
handles that it owns. -/
class Owns (α : Type) where
  handles : α → List Handle

instance : Owns Unit :=
  ⟨fun _ => []⟩

instance : Owns LinkState :=
  ⟨fun _ => []⟩

def discard [Owns α] (value : α) : Op Unit :=
  Handle.dropAll (Owns.handles value)

def ownIdentity : Op (Except Error NamespaceId) := do
  match ← Syscall.stat Path.threadSelf with
  | .error errno => return .error (Handle.failure Path.threadSelf errno)
  | .ok inode => return .ok ⟨inode⟩

end NetSwitch
