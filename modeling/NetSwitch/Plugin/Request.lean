import NetSwitch.Plugin.Command

/-! What the container runtime passes to the plugin besides standard input. -/

namespace NetSwitch.Plugin

/-- The invocation.  Only the command and the namespace's path mean something to
the plugin; the rest is carried along for its log. -/
structure Request where
  command : Command
  containerId : Option String := none
  netns : Option Path := none
  ifname : Option String := none
  args : Option String := none
  path : Option String := none
deriving DecidableEq, Repr

namespace Request

/-- The namespace's path if there is one to speak of: an empty one is as good as none. -/
def netns? (request : Request) : Option Path :=
  request.netns.filter (! ·.isEmpty)

/-- The namespace's path, for a command that cannot do without. -/
def demandNetns (request : Request) : Except Error Path :=
  match request.netns? with
  | some path => .ok path
  | none => .error (.invalidEnvironment ("CNI_NETNS is required for " ++ request.command.display))

end Request

end NetSwitch.Plugin
