import NetSwitch.Handle
import NetSwitch.Plugin.Report
import NetSwitch.Scenario.Program
import NetSwitch.Switch.Outcome

/-! What the actions of a program answer. -/

namespace NetSwitch.Scenario

/-- What can be seen of a handle. -/
structure Info where
  id : NamespaceId
  path : Path
  isClosed : Bool
  hasDescriptor : Bool
deriving DecidableEq, Repr

def Info.of (handle : Handle) : Info :=
  ⟨handle.id, handle.path, handle.isClosed, handle.descriptor?.isSome⟩

mutual

/-- What an action answers. -/
inductive Content (V : Type) where
  | done
  | handle (info : Info)
  | identity (id : NamespaceId)
  | deviceSet (device : Device)
  | deviceState (device : Device) (state : LinkState)
  /-- What the actions inside the namespace answered, if they were reached, and
  what came of the switch. -/
  | ranInside (inner : Option (List (Answer V))) (outcome : Outcome String (Failure V) V)
  | thread (inner : List (Answer V))
  | replied (reply : Plugin.Reply)
  /-- An error of the plugin, with the text that reports it if there is one. -/
  | pluginFailed (error : Plugin.Error) (text : Option String)
  | existed (existed : Bool)
  | failed (error : Error)
  | noHandle
  /-- The handle is lent out. -/
  | busy
  | unknown

/-- The answer of an action, with where the thread is and how many descriptors are
open after it. -/
inductive Answer (V : Type) where
  | mk (content : Content V) (location : String) (descriptors : Nat)

end

end NetSwitch.Scenario
