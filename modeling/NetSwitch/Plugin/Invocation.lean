import NetSwitch.Device
import NetSwitch.Plugin.Request
import NetSwitch.Plugin.Configuration
import NetSwitch.Plugin.Report
import NetSwitch.Switch

/-! The plugin at work: one command, from its environment and configuration to
what it replies. -/

namespace NetSwitch.Plugin

/-- An operation of the library as code to run inside a namespace.  It has nothing
to look after and is never unwound. -/
def body (op : Op (Except NetSwitch.Error α)) : Switch.Body σ Empty NetSwitch.Error α :=
  fun _ => Task.ofOp (Outcome.ofExcept <$> op)

def result (task : Task Unit (Outcome Empty NetSwitch.Error α)) : Op (Except Error α) := do
  return (Outcome.toExcept (← Task.alone task)).mapError .library

def add (request : Request) (version : String) : Op (Except Error Reply) := do
  match request.demandNetns with
  | .error e => return .error e
  | .ok netns =>
      match ← result (Switch.runAtPath netns (body (Device.loopback.bring .up))) with
      | .error e => return .error e
      | .ok () => return .ok (.add (AddReport.loopback version netns))

/-- Takes the loopback device down.  There is nothing to do if the namespace is
not there any more. -/
def del (request : Request) : Op (Except Error Reply) := do
  match request.netns? with
  | none =>
      Op.emit ⟨.info, .plugin, "no network namespace given, nothing to tear down", []⟩
      return .ok .empty
  | some netns =>
      match ← Handle.openPath netns with
      | .error (.notFound _) =>
          Op.emit ⟨.info, .plugin, "network namespace already gone",
            [("netns", .text netns.display)]⟩
          return .ok .empty
      | .error e => return .error (.library e)
      | .ok destination =>
          let outcome ← result (Switch.run destination (body (Device.loopback.bring .down)))
          let closed ← destination.close
          match outcome, closed with
          | .error e, _ => return .error e
          | .ok (), .error e => return .error (.library e)
          | .ok (), .ok () => return .ok .empty

def check (request : Request) : Op (Except Error Reply) := do
  match request.demandNetns with
  | .error e => return .error e
  | .ok netns =>
      match ← result (Switch.runAtPath netns (body Device.loopback.state)) with
      | .error e => return .error e
      | .ok .up => return .ok .empty
      | .ok .down => return .error (.checkFailed Device.loopback.name .down)

def shown (text : Option String) : Log.Value :=
  .text (text.getD "")

def invocation (request : Request) (version : String) : Log.Event :=
  ⟨.info, .plugin, "loopback plugin invoked",
    [("command", .text request.command.display), ("container_id", shown request.containerId),
      ("netns", .text (match request.netns with
        | none => "None"
        | some path => "Some(" ++ Text.quoteBytes path ++ ")")),
      ("ifname", shown request.ifname), ("args", shown request.args),
      ("cni_version", .text version)]⟩

def perform (request : Request) (version : String) : Op (Except Error Reply) :=
  match request.command with
  | .add => add request version
  | .del => del request
  | .check => check request
  | .version => return .ok (.version (VersionReport.supported version))

/-- Notes that a command has left its thread in another namespace, if it has. -/
def noteStranding (command : Command) : Except Error Reply → Op Unit
  | .ok _ => return
  | .error e =>
      if e.isRestoreFailure then
        Op.emit ⟨.error, .plugin, "plugin thread left in the container's network namespace",
          [("command", .text command.display), ("error", .text e.message)]⟩
      else return

/-- Runs one invocation of the plugin.  Of the configuration only the version
matters. -/
def run (request : Request) (stdin : Bytes) : Op (Except Error Reply) := do
  let conf := Configuration.read stdin
  Op.emit (invocation request conf.version)
  if request.command ≠ .version ∧ !conf.isSupported then
    return .error (.incompatibleVersion conf.version)
  else do
    let outcome ← perform request conf.version
    noteStranding request.command outcome
    return outcome

end NetSwitch.Plugin
