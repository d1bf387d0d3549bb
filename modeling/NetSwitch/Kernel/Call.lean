import NetSwitch.Kernel.World

/-! System calls: what is asked of the kernel, what it answers, and the faults
that make it fail. -/

namespace NetSwitch.Kernel

/-- The kinds of system calls. -/
inductive CallKind where
  | openFile
  | fstatfs
  | nstype
  | fstat
  | stat
  | dup
  | close
  | setns
  | socket
  | getFlags
  | setFlags
  | spawn
deriving DecidableEq, Repr

namespace CallKind

def word : CallKind → String
  | .openFile => "open"
  | .fstatfs => "fstatfs"
  | .nstype => "nstype"
  | .fstat => "fstat"
  | .stat => "stat"
  | .dup => "dup"
  | .close => "close"
  | .setns => "setns"
  | .socket => "socket"
  | .getFlags => "getflags"
  | .setFlags => "setflags"
  | .spawn => "spawn"

def all : List CallKind :=
  [.openFile, .fstatfs, .nstype, .fstat, .stat, .dup, .close, .setns, .socket, .getFlags,
    .setFlags, .spawn]

def ofWord? (word : String) : Option CallKind :=
  all.find? fun kind => kind.word = word

end CallKind

/-- The field for a device's name in a request: sixteen bytes, of which those
before the first zero byte are the name. -/
structure NameField where
  bytes : Bytes
  length_eq : bytes.length = 16
deriving DecidableEq, Repr

def NameField.name (field : NameField) : Bytes :=
  field.bytes.takeWhile (· ≠ 0)

/-- A system call with its arguments.  A switch is recorded with the name of the
namespace that its descriptor stands for. -/
inductive Call where
  | openFile (path : Path)
  | fstatfs (descriptor : Descriptor)
  | nstype (descriptor : Descriptor)
  | fstat (descriptor : Descriptor)
  | stat (path : Path)
  | dup (descriptor : Descriptor)
  | close (descriptor : Descriptor)
  | setns (descriptor : Descriptor) (target : Option String)
  | socket
  | getFlags (descriptor : Descriptor) (field : NameField)
  | setFlags (descriptor : Descriptor) (field : NameField) (flags : UInt16)
  | spawn
deriving DecidableEq, Repr

/-- What a system call answers. -/
inductive Report where
  | ok
  | made (descriptor : Descriptor)
  | failed (errno : Errno)
deriving DecidableEq, Repr

/-- A system call that was made. -/
structure Entry where
  call : Call
  report : Report
deriving DecidableEq, Repr

def Descriptor.display (descriptor : Descriptor) : String :=
  "#" ++ toString descriptor.number

namespace Call

def kind : Call → CallKind
  | .openFile _ => .openFile
  | .fstatfs _ => .fstatfs
  | .nstype _ => .nstype
  | .fstat _ => .fstat
  | .stat _ => .stat
  | .dup _ => .dup
  | .close _ => .close
  | .setns _ _ => .setns
  | .socket => .socket
  | .getFlags _ _ => .getFlags
  | .setFlags _ _ _ => .setFlags
  | .spawn => .spawn

def arguments : Call → List String
  | .openFile path => [path.display]
  | .fstatfs descriptor => [descriptor.display]
  | .nstype descriptor => [descriptor.display]
  | .fstat descriptor => [descriptor.display]
  | .stat path => [path.display]
  | .dup descriptor => [descriptor.display]
  | .close descriptor => [descriptor.display]
  | .setns descriptor target => [descriptor.display, target.getD "?"]
  | .socket => []
  | .getFlags descriptor field => [descriptor.display, field.name.display]
  | .setFlags descriptor field flags =>
      [descriptor.display, field.name.display, toString flags]
  | .spawn => []

end Call

def Report.display : Report → String
  | .ok => "ok"
  | .made descriptor => descriptor.display
  | .failed errno => "errno " ++ toString errno.number

def Entry.line (entry : Entry) : String :=
  " ".intercalate (entry.call.kind.word :: entry.call.arguments) ++ " = " ++ entry.report.display

/-! ### Faults -/

/-- An error that is waiting for system calls of a kind: it lets some of them
pass and then makes some of them fail. -/
structure Fault where
  kind : CallKind
  errno : Errno
  skip : Nat := 0
  times : Nat := 1
deriving DecidableEq, Repr

namespace Fault

def awaits (fault : Fault) (kind : CallKind) : Bool :=
  fault.kind = kind && 0 < fault.times

def pass (kind : CallKind) (fault : Fault) : Fault :=
  if fault.awaits kind then { fault with skip := fault.skip - 1 } else fault

/-- What the armed faults do to a call of a kind: the first that has nothing more
to let pass makes the call fail. -/
def meet (kind : CallKind) : List Fault → Option Errno × List Fault
  | [] => (none, [])
  | fault :: rest =>
      if fault.awaits kind ∧ fault.skip = 0 then
        (some fault.errno, { fault with times := fault.times - 1 } :: rest.map (pass kind))
      else
        let (errno, rest) := meet kind rest
        (errno, fault.pass kind :: rest)

/-- How many calls of a kind the armed faults can take notice of at most. -/
def patience (kind : CallKind) : List Fault → Nat
  | [] => 0
  | fault :: rest =>
      (if fault.awaits kind then fault.skip + fault.times else 0) + patience kind rest

end Fault

end NetSwitch.Kernel
