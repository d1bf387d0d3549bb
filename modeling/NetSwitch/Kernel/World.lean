import NetSwitch.Errno
import NetSwitch.Namespace

/-! The part of a system that namespaces, devices and files belong to. -/

namespace NetSwitch.Kernel

/-- A network device with its flags. -/
structure Device where
  name : String
  flags : UInt16
deriving DecidableEq, Repr

/-- A network namespace, known by a name that is used for nothing but telling
namespaces apart. -/
structure Namespace where
  name : String
  id : NamespaceId
  devices : List Device
deriving DecidableEq, Repr

/-- What a namespace file stands for. -/
inductive Target where
  /-- A network namespace. -/
  | network (name : String)
  /-- A namespace that no thread here can enter; only its inode is known. -/
  | foreign (inode : UInt64)
deriving DecidableEq, Repr

def networkType : Int := 0x40000000

/-- A namespace file: what it stands for, the type it gives itself, and the error
that asking for the type meets instead. -/
structure NamespaceFile where
  target : Target
  type : Int := networkType
  typeError : Option Errno := none
deriving DecidableEq, Repr

/-- What is found at a path. -/
inductive Node where
  | namespaceFile (file : NamespaceFile)
  | plain
  /-- Opening it fails. -/
  | failing (errno : Errno)
deriving DecidableEq, Repr

/-- What a descriptor refers to. -/
inductive Object where
  | namespaceFile (file : NamespaceFile)
  | plain
  /-- A control socket, bound to the namespace it was made in. -/
  | socket (bound : String)
deriving DecidableEq, Repr

/-- A descriptor.  The descriptors of a run are numbered from one, and no number
is used twice. -/
structure Descriptor where
  number : Nat
deriving DecidableEq, Repr

end NetSwitch.Kernel
