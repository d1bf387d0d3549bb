/-! Fixed points of the plugin protocol. -/

namespace NetSwitch.Plugin

def defaultVersion : String := "1.0.0"

def supportedVersions : List String := ["0.3.0", "0.3.1", "0.4.0", "1.0.0"]

def loopbackAddress : String := "127.0.0.1/8"

end NetSwitch.Plugin
