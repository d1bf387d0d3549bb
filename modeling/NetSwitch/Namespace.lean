import NetSwitch.Text.Bytes

/-! Identities of network namespaces and the paths they are opened from. -/

namespace NetSwitch

/-- The identity of a network namespace: the inode of its file. -/
structure NamespaceId where
  inode : UInt64
deriving DecidableEq, Repr

namespace NamespaceId

def display (id : NamespaceId) : String :=
  "net:[" ++ toString id.inode ++ "]"

instance : Ord NamespaceId :=
  ⟨fun a b => compare a.inode b.inode⟩

end NamespaceId

/-- A path in the file system: any bytes. -/
abbrev Path := Bytes

namespace Path

def threadSelf : Path :=
  Bytes.ofString "/proc/thread-self/ns/net"

def ofProcess (pid : UInt32) : Path :=
  Bytes.ofString ("/proc/" ++ toString pid ++ "/ns/net")

end Path

/-- The administrative state of a device. -/
inductive LinkState where
  | up
  | down
deriving DecidableEq, Repr

namespace LinkState

def isUp : LinkState → Bool
  | .up => true
  | .down => false

def display : LinkState → String
  | .up => "up"
  | .down => "down"

end LinkState

end NetSwitch
