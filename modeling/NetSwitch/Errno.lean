/-! Error numbers of system calls. -/

namespace NetSwitch

/-- The number a failed system call reports. -/
structure Errno where
  number : Int
deriving DecidableEq, Repr

namespace Errno

/-! ### The numbers that are treated apart -/

def notPermitted : Errno := ⟨1⟩
def noEntry : Errno := ⟨2⟩
def interrupted : Errno := ⟨4⟩
def badDescriptor : Errno := ⟨9⟩
def accessDenied : Errno := ⟨13⟩
def noDevice : Errno := ⟨19⟩
def invalidArgument : Errno := ⟨22⟩
def notATerminal : Errno := ⟨25⟩

def description (e : Errno) : String :=
  match e.number with
  | 0 => "Success"
  | 1 => "Operation not permitted"
  | 2 => "No such file or directory"
  | 3 => "No such process"
  | 4 => "Interrupted system call"
  | 5 => "Input/output error"
  | 6 => "No such device or address"
  | 9 => "Bad file descriptor"
  | 11 => "Resource temporarily unavailable"
  | 12 => "Cannot allocate memory"
  | 13 => "Permission denied"
  | 16 => "Device or resource busy"
  | 19 => "No such device"
  | 20 => "Not a directory"
  | 21 => "Is a directory"
  | 22 => "Invalid argument"
  | 23 => "Too many open files in system"
  | 24 => "Too many open files"
  | 25 => "Inappropriate ioctl for device"
  | 28 => "No space left on device"
  | 36 => "File name too long"
  | 38 => "Function not implemented"
  | 40 => "Too many levels of symbolic links"
  | 99 => "Cannot assign requested address"
  | 107 => "Transport endpoint is not connected"
  | 110 => "Connection timed out"
  | 116 => "Stale file handle"
  | 133 => "Memory page has hardware error"
  | n => "Unknown error " ++ toString n

/-- The text of an error number as an error of the operating system. -/
def message (e : Errno) : String :=
  e.description ++ " (os error " ++ toString e.number ++ ")"

def isNamed (e : Errno) : Bool :=
  1 ≤ e.number && e.number ≤ 133 && e.number ≠ 41 && e.number ≠ 58

/-- The number as the calls that report errors by name see it: one without a
name becomes zero. -/
def byName (e : Errno) : Errno :=
  if e.isNamed then e else ⟨0⟩

end Errno

end NetSwitch
