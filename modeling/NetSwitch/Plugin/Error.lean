import NetSwitch.Error

/-! The errors of the plugin, and the codes the container runtime knows them by. -/

namespace NetSwitch.Plugin

/-- Why the plugin refuses or fails. -/
inductive Error where
  | incompatibleVersion (version : String)
  | invalidEnvironment (message : String)
  | checkFailed (device : String) (state : LinkState)
  | library (error : NetSwitch.Error)
deriving DecidableEq, Repr

instance : OfError Error :=
  ⟨.library⟩

namespace Error

def message : Error → String
  | .incompatibleVersion version => "incompatible CNI version " ++ version
  | .invalidEnvironment message => "invalid plugin environment: " ++ message
  | .checkFailed device state => "device " ++ device ++ " is " ++ state.display ++ ", expected up"
  | .library error => error.message

/-- The protocol's code: those below 100 are known to every runtime. -/
def code : Error → UInt32
  | .incompatibleVersion _ => 1
  | .invalidEnvironment _ => 4
  | .checkFailed _ _ => 100
  | .library (.badConfiguration _) => 4
  | .library (.notFound _) => 3
  | .library (.io _ _) => 5
  | .library _ => 100

def details : Error → Option String
  | .library error => error.source?
  | _ => none

/-- Whether the thread was left in a namespace that is not its own. -/
def isRestoreFailure : Error → Bool
  | .library error => error.isRestoreFailure
  | _ => false

end Error

end NetSwitch.Plugin
