import NetSwitch.CommandLine.Parameter
import NetSwitch.Text.Plain

/-! The help and the version of the plugin's program. -/

namespace NetSwitch.CommandLine

def versionText : String :=
  programName ++ " 0.1.0\n"

def summaryColumn : Nat := 37

def spaces (n : Nat) : String :=
  String.ofList (List.replicate n ' ')

/-- A line of the help: an option, and in a column of its own what is said of it.
Further lines of that start in the same column. -/
def helpLine (option said : String) : String :=
  option ++ spaces (summaryColumn - option.length) ++
    ("\n" ++ spaces summaryColumn).intercalate (said.splitOn "\n") ++ "\n"

/-- The line of a parameter, with its variable and the value that it has. -/
def parameterLine (environment : Environment) (parameter : Parameter) : String :=
  let value := ((environment.lookup parameter.variableName).map Bytes.display).getD ""
  helpLine ("      " ++ parameter.display)
    (Text.plain (parameter.summary ++ " [env: " ++ parameter.variableName ++ "=" ++ value ++ "]"))

/-- The text that explains the program, with the values that its variables have. -/
def helpText (environment : Environment) : String :=
  "Loopback container-network plugin binary.\n\nUsage: " ++ programName ++
    " [OPTIONS] --command <COMMAND>\n\nOptions:\n"
    ++ String.join (Parameter.all.map (parameterLine environment))
    ++ helpLine "  -h, --help" "Print help"
    ++ helpLine "  -V, --version" "Print version"

end NetSwitch.CommandLine
