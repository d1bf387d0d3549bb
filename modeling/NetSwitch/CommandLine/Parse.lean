import NetSwitch.CommandLine.UsageError
import NetSwitch.Text.Similarity

/-! Reading a command line.

Arguments are read from left to right.  An option whose value is the next
argument is looked at only when the next option is met, or at the end, so that
an argument which nothing is known about is reported first.
-/

namespace NetSwitch.CommandLine

/-- What a command line asks for instead of an invocation. -/
inductive Detour where
  | help
  | version
  | refused (error : UsageError)
deriving DecidableEq, Repr

def asText (value : Bytes) : Except Detour String :=
  match value.toString? with
  | some text => .ok text
  | none => .error (.refused .invalidText)

namespace Draft

def has (draft : Draft) (parameter : Parameter) : Bool :=
  draft.given.contains parameter

def set (draft : Draft) (parameter : Parameter) (value : Bytes) : Except Detour Draft := do
  let draft := { draft with given := draft.given ++ [parameter] }
  match parameter with
  | .command =>
      let text ← asText value
      match Plugin.Command.parse text with
      | .ok command => .ok { draft with command := some command }
      | .error e => .error (.refused (.invalidCommand text e))
  | .containerId => .ok { draft with containerId := some (← asText value) }
  | .netns =>
      if value.isEmpty then .error (.refused (.valueRequired .netns))
      else .ok { draft with netns := some value }
  | .ifname => .ok { draft with ifname := some (← asText value) }
  | .args => .ok { draft with args := some (← asText value) }
  | .path => .ok { draft with path := some (← asText value) }

/-- Sets a parameter by an option, which must have a value and must be the first of
its kind. -/
def setByOption (draft : Draft) (parameter : Parameter) (value : Option Bytes) :
    Except Detour Draft :=
  match value with
  | none => .error (.refused (.valueRequired parameter))
  | some value =>
      if draft.has parameter then .error (.refused (.repeated parameter))
      else draft.set parameter value

def setByEnvironment (environment : Environment) : List Parameter → Draft → Except Detour Draft
  | [], draft => .ok draft
  | parameter :: rest, draft =>
      match environment.lookup parameter.variableName with
      | some value =>
          if draft.has parameter then setByEnvironment environment rest draft
          else do setByEnvironment environment rest (← draft.set parameter value)
      | none => setByEnvironment environment rest draft

def toRequest (draft : Draft) : Except Detour Plugin.Request :=
  match draft.command with
  | some command =>
      .ok ⟨command, draft.containerId, draft.netns, draft.ifname, draft.args, draft.path⟩
  | none => .error (.refused (.commandRequired draft.given))

end Draft

/-- How far a command line has been read: what has been set, and the last option
with the argument that is its value, if it has come. -/
structure Progress where
  draft : Draft := {}
  pending : Option (Parameter × Option Bytes) := none
deriving DecidableEq, Repr

namespace Progress

/-- The parameters that have been given, the pending one included if it has a value,
whatever that is worth.  One that is given again counts as not given. -/
def given (progress : Progress) : List Parameter :=
  match progress.pending with
  | some (parameter, some _) =>
      if progress.draft.has parameter then progress.draft.given.filter (· ≠ parameter)
      else progress.draft.given ++ [parameter]
  | _ => progress.draft.given

def absorb (progress : Progress) : Except Detour Draft :=
  match progress.pending with
  | some (parameter, value) => progress.draft.setByOption parameter value
  | none => .ok progress.draft

end Progress

/-- An argument, by its form. -/
inductive Argument where
  /-- Two dashes: no options come after it. -/
  | escape
  /-- An option with two dashes, and the value after the equals sign if there is one. -/
  | long (name : Bytes) (value : Option Bytes)
  /-- Options of one letter with one dash. -/
  | short (letters : Bytes)
  | plain (bytes : Bytes)
deriving DecidableEq, Repr

def Argument.ofBytes (bytes : Bytes) : Argument :=
  match bytes with
  | 0x2D :: 0x2D :: [] => .escape
  | 0x2D :: 0x2D :: rest =>
      match rest.dropWhile (· ≠ 0x3D) with
      | [] => .long rest none
      | _ :: value => .long (rest.takeWhile (· ≠ 0x3D)) (some value)
  | 0x2D :: b :: rest => .short (b :: rest)
  | bytes => .plain bytes

/-- The names of the options, in the order in which they are looked at for one that
is similar. -/
def optionNames : List String :=
  Parameter.all.map Parameter.long ++ ["help", "version"]

def unknownOption (progress : Progress) (name : Bytes) : Detour :=
  .refused (.unexpectedOption ("--" ++ name.display)
    (Text.mostSimilar? name.display optionNames) progress.given)

def readFlag (progress : Progress) (name : String) (detour : Detour) (value : Option Bytes) :
    Except Detour Progress :=
  match value with
  | some value =>
      .error (.refused
        (.unexpectedValue value.display ("--" ++ name) (!progress.draft.given.isEmpty)))
  | none => do
      let _ ← progress.absorb
      .error detour

def readLong (progress : Progress) (name : Bytes) (value : Option Bytes) :
    Except Detour Progress :=
  match name.toString? with
  | none => .error (unknownOption progress name)
  | some text =>
      if text = "help" then readFlag progress text .help value
      else if text = "version" then readFlag progress text .version value
      else match Parameter.ofLong? text with
        | none => .error (unknownOption progress name)
        | some parameter => do
            let draft ← progress.absorb
            match value with
            | some _ => .ok { draft := ← draft.setByOption parameter value }
            | none => .ok { draft, pending := some (parameter, none) }

/-- Reads options of one letter: the first decides. -/
def readShort (progress : Progress) (letters : Bytes) : Detour :=
  match Text.pieces letters with
  | .char c :: _ =>
      let detour :=
        if c = 'h' then some Detour.help else if c = 'V' then some Detour.version else none
      match detour with
      | none => .refused (.unexpectedArgument (String.ofList ['-', c]))
      | some detour =>
          match progress.absorb with
          | .ok _ => detour
          | .error e => e
  | _ => .refused (.unexpectedArgument ("-" ++ letters.display))

def readArguments : Progress → List Bytes → Except Detour Progress
  | progress, [] => .ok progress
  | progress, bytes :: rest =>
      match Argument.ofBytes bytes with
      | .escape =>
          match rest with
          | [] => .ok progress
          | stray :: _ => .error (.refused (.unexpectedArgument stray.display))
      | .long name value => do readArguments (← readLong progress name value) rest
      | .short letters => .error (readShort progress letters)
      | .plain value =>
          match progress.pending with
          | some (parameter, none) =>
              readArguments { progress with pending := some (parameter, some value) } rest
          | _ => .error (.refused (.unexpectedArgument value.display))

/-- The invocation that a command line and the environment's variables stand for. -/
def parse (arguments : List Bytes) (environment : Environment) :
    Except Detour Plugin.Request := do
  let progress ← readArguments {} arguments
  let draft ← progress.absorb
  let draft ← draft.setByEnvironment environment Parameter.all
  draft.toRequest

end NetSwitch.CommandLine
