import NetSwitch.Json.Wire
import NetSwitch.Plugin.Protocol

/-! The network configuration that the plugin finds on its standard input. -/

namespace NetSwitch.Plugin

/-- What the plugin looks at in the configuration. -/
structure Configuration where
  cniVersion : Option String := none
  name : Option String := none
  type : Option String := none
deriving DecidableEq, Repr

namespace Configuration

instance : Json.Wire Configuration where
  shape := .record
    (.cons "cniVersion" (.option .text)
      (.cons "name" (.option .text) (.cons "type" (.option .text) .nil)))
  toValue conf := (conf.cniVersion, conf.name, conf.type, ())
  ofValue := fun (cniVersion, name, type, ()) => ⟨cniVersion, name, type⟩
  ofValue_toValue _ := rfl
  toValue_ofValue _ := rfl

/-- Reads the configuration.  One that cannot be read is as good as an empty one. -/
def read (input : Bytes) : Configuration :=
  match Json.decode input with
  | .ok conf => conf
  | .error _ => {}

def version (conf : Configuration) : String :=
  conf.cniVersion.getD defaultVersion

def isSupported (conf : Configuration) : Bool :=
  supportedVersions.contains conf.version

end Configuration

end NetSwitch.Plugin
