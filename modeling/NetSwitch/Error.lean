import NetSwitch.Errno
import NetSwitch.Namespace

/-! What can go wrong with namespaces, switches and devices. -/

namespace NetSwitch

/-- The half of a switch that failed. -/
inductive Passage where
  | enter
  | restore
deriving DecidableEq, Repr

def Passage.display : Passage → String
  | .enter => "enter"
  | .restore => "restore"

/-- What lies behind an error: a number from the system, or a text from elsewhere. -/
inductive Source where
  | os (errno : Errno)
  | other (text : String)
deriving DecidableEq, Repr

def Source.message : Source → String
  | .os errno => errno.message
  | .other text => text

/-- The errors of this library.  Code run inside a namespace has errors of its
own, which are handed back as they are. -/
inductive Error where
  | io (path : Path) (source : Source)
  | badConfiguration (message : String)
  | notFound (id : String)
  | permissionDenied (message : String)
  | switchFailed (passage : Passage) (source : Source)
  | deviceNotFound (device : String)
  | handleClosed (path : Path)
  | reentrant
  | threadTainted
  | workerPanicked
deriving DecidableEq, Repr

namespace Error

def message : Error → String
  | .io path source => "I/O error at " ++ path.display ++ ": " ++ source.message
  | .badConfiguration message => "invalid configuration: " ++ message
  | .notFound id => "network namespace not found: " ++ id
  | .permissionDenied message => "permission denied: " ++ message
  | .switchFailed passage source =>
      "failed to " ++ passage.display ++ " network namespace: " ++ source.message
  | .deviceNotFound device => "device " ++ device ++ " not found in current network namespace"
  | .handleClosed path => "namespace handle for " ++ path.display ++ " is closed"
  | .reentrant => "namespace switch already in progress on this thread"
  | .threadTainted =>
      "thread network namespace is in an unknown state after a failed restore"
  | .workerPanicked => "namespace worker thread panicked"

/-- The text of what lies behind an error, for the kinds that have something. -/
def source? : Error → Option String
  | .io _ source => some source.message
  | .switchFailed _ source => some source.message
  | _ => none

/-- Whether the thread could not get back to the namespace it came from. -/
def isRestoreFailure : Error → Bool
  | .switchFailed .restore _ => true
  | _ => false

def isNotFound : Error → Bool
  | .notFound _ => true
  | _ => false

end Error

/-- Error types that have room for the errors of this library. -/
class OfError (ε : Type u) where
  ofError : Error → ε

instance : OfError Error :=
  ⟨id⟩

end NetSwitch
