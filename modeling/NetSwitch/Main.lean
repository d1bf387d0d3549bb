import NetSwitch.CommandLine.Run
import NetSwitch.Log.Record

/-! The plugin's program, at work on a machine of its own. -/

namespace NetSwitch.CommandLine

def readEnvironment : IO Environment := do
  let mut environment := []
  for name in variableNames do
    if let some value ← IO.getEnv name then
      environment := environment ++ [(name, Bytes.ofString value)]
  return environment

partial def drain (stream : IO.FS.Stream) (collected : ByteArray) : IO ByteArray := do
  let chunk ← stream.read 4096
  if chunk.isEmpty then return collected else drain stream (collected ++ chunk)

/-- Runs the program with its log on standard error, and returns its exit status. -/
def program (arguments : List String) : IO UInt32 := do
  let arguments := arguments.map Bytes.ofString
  let environment ← readEnvironment
  let stdin ←
    if readsInput arguments environment then drain (← IO.getStdin) .empty
    else pure .empty
  let (exit, machine) := run arguments environment stdin.toList Machine.host
  let line := if logsJson environment then Log.Event.json else Log.Event.line
  for event in shownLog environment machine.log do
    IO.eprintln (line event)
  IO.print exit.stdout
  return exit.status

end NetSwitch.CommandLine

def main (arguments : List String) : IO UInt32 :=
  NetSwitch.CommandLine.program arguments
