import NetSwitch.CommandLine.Help
import NetSwitch.CommandLine.Parse
import NetSwitch.Log.Filter
import NetSwitch.Plugin.Invocation

/-! One run of the plugin's program. -/

namespace NetSwitch.CommandLine

/-- How a run ends: its exit status and what it has written. -/
structure Exit where
  status : UInt32
  stdout : String
deriving DecidableEq, Repr

/-- The end of a run that failed with an error, which is reported in a version. -/
def Exit.failure (version : String) (error : Plugin.Error) : Exit :=
  ⟨1, Json.encode (Plugin.ErrorReport.ofError version error) ++ "\n"⟩

/-- The end of a run that succeeded.  An empty reply is not written at all. -/
def Exit.success : Plugin.Reply → Exit
  | .empty => ⟨0, ""⟩
  | reply => ⟨0, reply.text ++ "\n"⟩

def runInvocation (request : Plugin.Request) (stdin : Bytes) : Op Exit := do
  match ← Plugin.run request stdin with
  | .ok reply => return .success reply
  | .error e =>
      Op.emit ⟨.error, .command, "plugin command failed",
        [("command", .text request.command.display), ("code", .number e.code.toNat),
          ("error", .text e.message)]⟩
      return .failure (Plugin.Configuration.read stdin).version e

/-- Whether a command line comes to an invocation, the only thing that standard
input is read for. -/
def readsInput (arguments : List Bytes) (environment : Environment) : Bool :=
  (parse arguments environment).isOk

def run (arguments : List Bytes) (environment : Environment) (stdin : Bytes) : Op Exit := do
  match parse arguments environment with
  | .ok request => runInvocation request stdin
  | .error .help => return ⟨0, helpText environment⟩
  | .error .version => return ⟨0, versionText⟩
  | .error (.refused e) =>
      Op.emit ⟨.error, .program, "invalid plugin invocation", [("error", .text e.text)]⟩
      return .failure Plugin.defaultVersion e.toPluginError

def textOf? (environment : Environment) (name : String) : Option String := do
  (← environment.lookup name).toString?

def sharedLogVariable : String := "RUST_LOG"

def logVariable : String := "NSLOOP_LOG"

def logFormatVariable : String := "NSLOOP_LOG_FORMAT"

def filterOf? (environment : Environment) (name : String) : Option Log.Filter := do
  Log.Filter.parse? (← textOf? environment name)

/-- The filter for the log: the first of two variables that makes one, or warnings
and errors. -/
def logFilter (environment : Environment) : Log.Filter :=
  ((filterOf? environment sharedLogVariable).or (filterOf? environment logVariable)).getD
    [⟨"", Log.Level.warn.verbosity⟩]

def logsJson (environment : Environment) : Bool :=
  textOf? environment logFormatVariable = some "json"

def shownLog (environment : Environment) (log : List Log.Event) : List Log.Event :=
  log.filter (logFilter environment).shows

def variableNames : List String :=
  Parameter.all.map Parameter.variableName ++ [sharedLogVariable, logVariable, logFormatVariable]

end NetSwitch.CommandLine
