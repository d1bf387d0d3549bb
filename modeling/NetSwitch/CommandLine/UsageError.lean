import NetSwitch.CommandLine.Parameter
import NetSwitch.Text.Plain

/-! What can be wrong with a command line. -/

namespace NetSwitch.CommandLine

/-- A fault of the command line, with what its text needs to know. -/
inductive UsageError where
  /-- There is no command; other parameters may have been given. -/
  | commandRequired (given : List Parameter)
  | invalidCommand (value : String) (error : Plugin.Error)
  | valueRequired (parameter : Parameter)
  | repeated (parameter : Parameter)
  /-- A value that has to be a text is none. -/
  | invalidText
  | unexpectedArgument (shown : String)
  /-- An option that is not known, with one that is and looks like it. -/
  | unexpectedOption (shown : String) (similar : Option String) (given : List Parameter)
  /-- A value for an option that takes none; whether a parameter has been given. -/
  | unexpectedValue (value option : String) (isAnyGiven : Bool)
deriving DecidableEq, Repr

namespace UsageError

def message : UsageError → String
  | .commandRequired _ =>
      "the following required arguments were not provided:\n  " ++ Parameter.command.display
  | .invalidCommand value error =>
      "invalid value '" ++ Text.plain value ++ "' for '" ++ Parameter.command.display ++ "': " ++
        error.message
  | .valueRequired parameter =>
      "a value is required for '" ++ parameter.display ++ "' but none was supplied"
  | .repeated parameter =>
      "the argument '" ++ parameter.display ++ "' cannot be used multiple times"
  | .invalidText => "invalid UTF-8 was detected in one or more arguments"
  | .unexpectedArgument shown => "unexpected argument '" ++ Text.plain shown ++ "' found"
  | .unexpectedOption shown _ _ => "unexpected argument '" ++ Text.plain shown ++ "' found"
  | .unexpectedValue value option _ =>
      "unexpected value '" ++ Text.plain value ++ "' for '" ++ option ++
        "' found; no more were expected"

/-- The usage that goes with the options that have been given: the command comes
first, and nothing comes twice. -/
def usageOf (given : List String) : String :=
  let command := Parameter.command.display
  if given.isEmpty then "[OPTIONS] " ++ command
  else " ".intercalate (command :: given).eraseDups

def anyParameter : String :=
  "<" ++ "|".intercalate (Parameter.all.map Parameter.display) ++ ">"

/-- The usage that is shown with an error, for the errors that show one. -/
def usage? : UsageError → Option String
  | .commandRequired given =>
      some (usageOf (Parameter.command.display :: given.map Parameter.display))
  | .invalidCommand _ _ => none
  | .valueRequired _ => none
  | .repeated _ => some (usageOf [])
  | .invalidText => some (usageOf [])
  | .unexpectedArgument _ => some (usageOf [])
  | .unexpectedOption _ similar given =>
      let similar := similar.map fun name =>
        match Parameter.ofLong? name with
        | some parameter => parameter.display
        | none => "--" ++ name
      some (usageOf (given.map Parameter.display ++ similar.toList))
  | .unexpectedValue _ option isAnyGiven =>
      some (if isAnyGiven then option ++ " " ++ anyParameter else usageOf [option])

def hint : UsageError → String
  | .unexpectedOption _ (some similar) _ =>
      "\n\n  tip: a similar argument exists: '--" ++ similar ++ "'"
  | _ => ""

def text (e : UsageError) : String :=
  "error: " ++ e.message ++ e.hint ++
    (match e.usage? with
      | some usage => "\n\nUsage: " ++ programName ++ " " ++ usage
      | none => "") ++
    "\n\nFor more information, try '--help'.\n"

def firstLine (text : String) : String :=
  let line := text.toList.takeWhile (· ≠ '\n')
  let isEnded := line.length < text.toList.length
  String.ofList (if isEnded ∧ line.getLast? = some '\r' then line.dropLast else line)

def toPluginError (e : UsageError) : Plugin.Error :=
  .invalidEnvironment (firstLine e.message)

end UsageError

end NetSwitch.CommandLine
