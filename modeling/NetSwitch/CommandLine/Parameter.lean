import NetSwitch.Plugin.Request

/-! The parameters of the plugin's command line.

Each can be given by an option or, where the option is absent, by a variable of
the environment.
-/

namespace NetSwitch.CommandLine

def programName : String := "loopback"

/-- What the container runtime can pass to the program. -/
inductive Parameter where
  | command
  | containerId
  | netns
  | ifname
  | args
  | path
deriving DecidableEq, Repr

namespace Parameter

def all : List Parameter :=
  [.command, .containerId, .netns, .ifname, .args, .path]

def long : Parameter → String
  | .command => "command"
  | .containerId => "container-id"
  | .netns => "netns"
  | .ifname => "ifname"
  | .args => "cni-args"
  | .path => "cni-path"

def valueName : Parameter → String
  | .command => "COMMAND"
  | .containerId => "CONTAINER_ID"
  | .netns => "NETNS"
  | .ifname => "IFNAME"
  | .args => "ARGS"
  | .path => "PATH"

def variableName : Parameter → String
  | .command => "CNI_COMMAND"
  | .containerId => "CNI_CONTAINERID"
  | .netns => "CNI_NETNS"
  | .ifname => "CNI_IFNAME"
  | .args => "CNI_ARGS"
  | .path => "CNI_PATH"

def summary : Parameter → String
  | .command => "Plugin command: ADD, DEL, CHECK or VERSION"
  | .containerId => "Container identifier"
  | .netns => "Path of the container's network namespace"
  | .ifname => "Interface name requested by the runtime (ignored)"
  | .args => "Extra `KEY=VALUE;...` arguments"
  | .path => "Plugin search path"

def display (parameter : Parameter) : String :=
  "--" ++ parameter.long ++ " <" ++ parameter.valueName ++ ">"

def ofLong? (name : String) : Option Parameter :=
  all.find? fun parameter => parameter.long = name

end Parameter

/-- The environment's variables with their values. -/
abbrev Environment := List (String × Bytes)

/-- The values that have been given, and by which parameters, in order. -/
structure Draft where
  command : Option Plugin.Command := none
  containerId : Option String := none
  netns : Option Path := none
  ifname : Option String := none
  args : Option String := none
  path : Option String := none
  given : List Parameter := []
deriving DecidableEq, Repr

end NetSwitch.CommandLine
