import NetSwitch.Error
import NetSwitch.Text.Quoted
import NetSwitch.Kernel.Syscall

/-! Devices of the namespace that the running thread is in.

Every operation makes a control socket of its own, because a socket stays bound
to the namespace in which it was made.
-/

namespace NetSwitch

open Kernel (Descriptor NameField)

/-- A network device, by its name. -/
structure Device where
  name : String
deriving DecidableEq, Repr

namespace Device

def loopback : Device := ⟨"lo"⟩

def upFlag : UInt16 := 1

def stateOf (flags : UInt16) : LinkState :=
  if flags &&& upFlag = 0 then .down else .up

def withState (flags : UInt16) : LinkState → UInt16
  | .up => flags ||| upFlag
  | .down => flags &&& ~~~upFlag

/-- The name field of a request about a device.  The name must not be empty, must
leave room for a zero byte, and must not hold one. -/
def field? (device : Device) : Option NameField :=
  let name := Bytes.ofString device.name
  if fits : name.length < 16 then
    if name.isEmpty ∨ name.contains 0 then none
    else some ⟨name ++ List.replicate (16 - name.length) 0, by
      rw [List.length_append, List.length_replicate]; omega⟩
  else none

def field (device : Device) : Except Error NameField :=
  match device.field? with
  | some field => .ok field
  | none => .error (.badConfiguration ("invalid device name: " ++ Text.quote device.name))

def denial (errno : Errno) : String :=
  (if errno = .notPermitted then "EPERM: " else "EACCES: ") ++ errno.description

def requestFailure (device : Device) (request : String) (errno : Errno) : Error :=
  if errno = .noDevice then .deviceNotFound device.name
  else if errno = .notPermitted ∨ errno = .accessDenied then
    .permissionDenied (request ++ " on " ++ device.name ++ ": " ++ denial errno)
  else .io (Bytes.ofString (request ++ " " ++ device.name)) (.os errno.byName)

/-- Runs an operation with a control socket, which is closed afterwards. -/
def withSocket (use : Descriptor → Op (Except Error α)) : Op (Except Error α) := do
  match ← Syscall.socket with
  | .error errno =>
      return .error (.io (Bytes.ofString "socket(AF_INET, SOCK_DGRAM)") (.os errno.byName))
  | .ok socket =>
      let outcome ← use socket
      let _ ← Syscall.close socket
      return outcome

/-- The device's flags, with the name field that the request was made with. -/
def readFlags (device : Device) (socket : Descriptor) : Op (Except Error (NameField × UInt16)) := do
  match device.field with
  | .error e => return .error e
  | .ok field =>
      match ← Syscall.getFlags socket field with
      | .error errno => return .error (device.requestFailure "SIOCGIFFLAGS" errno)
      | .ok flags => return .ok (field, flags)

def fields (device : Device) (state : LinkState) : List (String × Log.Value) :=
  [("device", .text device.name), ("state", .text state.display)]

def state (device : Device) : Op (Except Error LinkState) :=
  withSocket fun socket => do
    match ← device.readFlags socket with
    | .error e => return .error e
    | .ok (_, flags) => return .ok (stateOf flags)

/-- Brings the device into a state.  Nothing is written if it is in that state. -/
def bring (device : Device) (desired : LinkState) : Op (Except Error Unit) :=
  withSocket fun socket => do
    match ← device.readFlags socket with
    | .error e => return .error e
    | .ok (field, flags) =>
        if stateOf flags = desired then
          Op.emit ⟨.debug, .device, "device already in requested state", device.fields desired⟩
          return .ok ()
        else
          match ← Syscall.setFlags socket field (withState flags desired) with
          | .error errno => return .error (device.requestFailure "SIOCSIFFLAGS" errno)
          | .ok () =>
              Op.emit ⟨.info, .device, "set device state", device.fields desired⟩
              return .ok ()

end Device

end NetSwitch
