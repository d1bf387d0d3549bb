import NetSwitch.Text.Quoted

/-! What is logged while the library works. -/

namespace NetSwitch.Log

/-- How grave an event is. -/
inductive Level where
  | error
  | warn
  | info
  | debug
  | trace
deriving DecidableEq, Repr

/-- How much a level says: a filter for a level lets through what says no more. -/
def Level.verbosity : Level → Nat
  | .error => 1
  | .warn => 2
  | .info => 3
  | .debug => 4
  | .trace => 5

def Level.display : Level → String
  | .error => "ERROR"
  | .warn => "WARN"
  | .info => "INFO"
  | .debug => "DEBUG"
  | .trace => "TRACE"

/-- The parts of the program that log. -/
inductive Part where
  | handle
  | switch
  | device
  | plugin
  | command
  | program
deriving DecidableEq, Repr

/-- The name that a part logs under.  Filters go by the beginnings of these names. -/
def Part.name : Part → String
  | .handle => "nsloop_core::netns::handle"
  | .switch => "nsloop_core::netns::switcher"
  | .device => "nsloop_core::loopback"
  | .plugin => "nsloop_cni::dispatch"
  | .command => "loopback::commands"
  | .program => "loopback"

/-- What an event says of one thing: a text, or a number. -/
inductive Value where
  | text (shown : String)
  | number (n : Nat)
deriving DecidableEq, Repr

def Value.display : Value → String
  | .text shown => shown
  | .number n => toString n

/-- One thing that was logged, with the part of the program that logged it. -/
structure Event where
  level : Level
  part : Part
  message : String
  fields : List (String × Value)
deriving DecidableEq, Repr

/-- An event on one line: the level, the message, and the fields in order. -/
def Event.line (event : Event) : String :=
  event.level.display ++ " " ++ event.message ++
    String.join (event.fields.map fun (name, value) => " " ++ name ++ "=" ++ value.display)

end NetSwitch.Log
