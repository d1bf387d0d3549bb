import NetSwitch.Json.Writer
import NetSwitch.Log

/-! Events as JSON objects, for a log that is read by programs. -/

namespace NetSwitch.Log

/-- A number stays a number; everything else is a string. -/
def Value.json : Value → List Char
  | .text shown => Json.writeText shown
  | .number n => Nat.toDigits 10 n

def record (members : List (String × List Char)) : List Char :=
  '\x7b' :: Json.separate (members.map fun (name, value) => Json.writeText name ++ ':' :: value)
    ++ ['\x7d']

/-- An event as an object on one line.  The message is the first of its fields. -/
def Event.json (event : Event) : String :=
  String.ofList (record [("level", Json.writeText event.level.display),
    ("fields", record (("message", Json.writeText event.message) ::
      event.fields.map fun (name, value) => (name, value.json))),
    ("target", Json.writeText event.part.name)])

end NetSwitch.Log
