import NetSwitch.Text.Quoted
import NetSwitch.Plugin.Error

/-! The commands of the plugin. -/

namespace NetSwitch.Plugin

/-- What the container runtime asks for. -/
inductive Command where
  | add
  | del
  | check
  | version
deriving DecidableEq, Repr

namespace Command

def display : Command → String
  | .add => "ADD"
  | .del => "DEL"
  | .check => "CHECK"
  | .version => "VERSION"

def actsOnNamespace : Command → Bool
  | .version => false
  | _ => true

def parse (text : String) : Except Error Command :=
  if text = "ADD" then .ok .add
  else if text = "DEL" then .ok .del
  else if text = "CHECK" then .ok .check
  else if text = "VERSION" then .ok .version
  else .error (.invalidEnvironment ("unknown CNI_COMMAND: " ++ Text.quote text))

end Command

end NetSwitch.Plugin
