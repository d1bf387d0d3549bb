import NetSwitch.Kernel.Call

/-! The state of the kernel. -/

namespace NetSwitch

/-- Open descriptors stand in the order in which they were made, which is the order
of their numbers. -/
structure Kernel.Numbered (descriptors : List (Kernel.Descriptor × Kernel.Object)) (made : Nat) :
    Prop where
  ascending : descriptors.Pairwise fun a b => a.1.number < b.1.number
  bounded : ∀ entry ∈ descriptors, entry.1.number ≤ made

namespace Kernel.Numbered

variable {descriptors : List (Kernel.Descriptor × Kernel.Object)} {made : Nat}

theorem nil : Numbered [] made :=
  ⟨.nil, by simp⟩

theorem filter (numbered : Numbered descriptors made)
    (keep : Kernel.Descriptor × Kernel.Object → Bool) :
    Numbered (descriptors.filter keep) made where
  ascending := numbered.ascending.filter keep
  bounded entry member := numbered.bounded entry (List.mem_filter.mp member).1

theorem append (numbered : Numbered descriptors made) (object : Kernel.Object) :
    Numbered (descriptors ++ [(⟨made + 1⟩, object)]) (made + 1) where
  ascending := by
    refine List.pairwise_append.mpr ⟨numbered.ascending, List.pairwise_singleton .., ?_⟩
    intro entry member fresh same
    rw [List.mem_singleton.mp same]
    exact Nat.lt_succ_of_le (numbered.bounded entry member)
  bounded := by
    intro entry member
    rcases List.mem_append.mp member with older | fresh
    · exact Nat.le_succ_of_le (numbered.bounded entry older)
    · exact Nat.le_of_eq (by rw [List.mem_singleton.mp fresh])

end Kernel.Numbered

/-- The kernel: its namespaces and files, the descriptors that are open, the
faults that are armed, and the system calls that were made. -/
structure Kernel where
  namespaces : List Kernel.Namespace
  files : List (Path × Kernel.Node) := []
  descriptors : List (Kernel.Descriptor × Kernel.Object) := []
  /-- How many descriptors have been made. -/
  made : Nat := 0
  faults : List Kernel.Fault := []
  trace : List Kernel.Entry := []
  numbered : Kernel.Numbered descriptors made := by exact .nil
deriving DecidableEq, Repr

namespace Kernel

def namespace? (kernel : Kernel) (name : String) : Option Namespace :=
  kernel.namespaces.find? fun n => n.name = name

def object? (kernel : Kernel) (descriptor : Descriptor) : Option Object :=
  kernel.descriptors.lookup descriptor

def inode (kernel : Kernel) : Target → UInt64
  | .network name => ((kernel.namespace? name).map (·.id.inode)).getD 0
  | .foreign inode => inode

/-- The network namespace that a descriptor stands for. -/
def network? (kernel : Kernel) (descriptor : Descriptor) : Option String :=
  match kernel.object? descriptor with
  | some (.namespaceFile ⟨.network name, _, _⟩) => some name
  | _ => none

/-- What a thread in a namespace finds at a path: the thread's own namespace file
is there unless another file takes its place. -/
def node? (kernel : Kernel) (location : String) (path : Path) : Option Node :=
  (kernel.files.lookup path).or
    (if path = Path.threadSelf then some (.namespaceFile { target := .network location }) else none)

def allocate (kernel : Kernel) (object : Object) : Descriptor × Kernel :=
  let descriptor : Descriptor := ⟨kernel.made + 1⟩
  (descriptor,
    { kernel with
      descriptors := kernel.descriptors ++ [(descriptor, object)]
      made := kernel.made + 1
      numbered := kernel.numbered.append object })

def release (kernel : Kernel) (descriptor : Descriptor) : Kernel :=
  { kernel with
    descriptors := kernel.descriptors.filter (·.1 ≠ descriptor)
    numbered := kernel.numbered.filter _ }

def flags? (kernel : Kernel) (location : String) (device : Bytes) : Option UInt16 := do
  let n ← kernel.namespace? location
  let found ← n.devices.find? fun d => Bytes.ofString d.name = device
  some found.flags

def modifyDevices (kernel : Kernel) (location : String) (change : List Device → List Device) :
    Kernel :=
  { kernel with
    namespaces := kernel.namespaces.map fun n =>
      if n.name = location then { n with devices := change n.devices } else n }

def setFlags (kernel : Kernel) (location : String) (device : Bytes) (flags : UInt16) : Kernel :=
  kernel.modifyDevices location fun devices =>
    devices.map fun d => if Bytes.ofString d.name = device then { d with flags } else d

/-! ### Changes from outside -/

def putFile (kernel : Kernel) (path : Path) (node : Node) : Kernel :=
  { kernel with files := (path, node) :: kernel.files.filter (·.1 ≠ path) }

def removeFile (kernel : Kernel) (path : Path) : Kernel :=
  { kernel with files := kernel.files.filter (·.1 ≠ path) }

def hasFile (kernel : Kernel) (path : Path) : Bool :=
  kernel.files.any (·.1 = path)

def putDevice (kernel : Kernel) (location : String) (device : Device) : Kernel :=
  kernel.modifyDevices location fun devices =>
    devices.filter (·.name ≠ device.name) ++ [device]

def removeDevice (kernel : Kernel) (location name : String) : Kernel :=
  kernel.modifyDevices location fun devices => devices.filter (·.name ≠ name)

def arm (kernel : Kernel) (fault : Fault) : Kernel :=
  { kernel with faults := kernel.faults ++ [fault] }

def disarm (kernel : Kernel) : Kernel :=
  { kernel with faults := [] }

end Kernel

end NetSwitch
