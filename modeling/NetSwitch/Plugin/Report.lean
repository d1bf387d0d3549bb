import NetSwitch.Device
import NetSwitch.Json.Wire
import NetSwitch.Plugin.Error
import NetSwitch.Plugin.Protocol

/-! What the plugin reports to the container runtime. -/

namespace NetSwitch.Plugin

/-- An interface that was configured, and the path of the namespace it is in. -/
structure Interface where
  name : String
  sandbox : Option String
deriving DecidableEq, Repr

/-- An address, with the place of its interface in the list of interfaces.  The
address family is named in results of versions before 1. -/
structure Address where
  version : Option String
  address : String
  interface : Option UInt64
deriving DecidableEq, Repr

/-- The result of bringing the device up. -/
structure AddReport where
  cniVersion : String
  interfaces : List Interface
  ips : List Address
deriving DecidableEq, Repr

/-- The versions that the plugin speaks. -/
structure VersionReport where
  cniVersion : String
  supportedVersions : List String
deriving DecidableEq, Repr

/-- The report of a failure. -/
structure ErrorReport where
  cniVersion : String
  code : UInt32
  msg : String
  details : Option String
deriving DecidableEq, Repr

/-! ### JSON forms -/

open Json (Wire)

instance : Wire NamespaceId where
  shape := .natural UInt64.size
  toValue id := id.inode.toFin
  ofValue n := ⟨UInt64.ofFin n⟩
  ofValue_toValue _ := rfl
  toValue_ofValue _ := rfl

instance : Wire LinkState where
  shape := .choice ["up", "down"]
  toValue
    | .up => (0 : Fin 2)
    | .down => (1 : Fin 2)
  ofValue n := if n = (0 : Fin 2) then .up else .down
  ofValue_toValue state := by cases state <;> rfl
  toValue_ofValue := by decide

instance : Wire Interface where
  shape := .record (.cons "name" .text (.cons "sandbox" (.option .text) .nil))
  toValue interface := (interface.name, interface.sandbox, ())
  ofValue := fun (name, sandbox, ()) => ⟨name, sandbox⟩
  ofValue_toValue _ := rfl
  toValue_ofValue _ := rfl

instance : Wire Address where
  shape := .record
    (.cons "version" (.option .text)
      (.cons "address" .text (.cons "interface" (.option (.natural UInt64.size)) .nil)))
  toValue ip := (ip.version, ip.address, ip.interface.map UInt64.toFin, ())
  ofValue := fun (version, address, interface, ()) =>
    ⟨version, address, interface.map UInt64.ofFin⟩
  ofValue_toValue ip := by
    obtain ⟨version, address, interface⟩ := ip
    cases interface <;> rfl
  toValue_ofValue := by
    rintro ⟨version, address, interface, ⟨⟩⟩
    cases interface <;> rfl

instance : Wire AddReport where
  shape := .record
    (.cons "cniVersion" .text
      (.cons "interfaces" (.list (Wire.shape Interface))
        (.cons "ips" (.list (Wire.shape Address)) .nil)))
  toValue result :=
    (result.cniVersion, result.interfaces.map Wire.toValue, result.ips.map Wire.toValue, ())
  ofValue := fun (cniVersion, interfaces, ips, ()) =>
    ⟨cniVersion, interfaces.map Wire.ofValue, ips.map Wire.ofValue⟩
  ofValue_toValue result := by
    simp [Function.comp_def, Wire.ofValue_toValue]
  toValue_ofValue := by
    rintro ⟨cniVersion, interfaces, ips, ⟨⟩⟩
    simp [Function.comp_def, Wire.toValue_ofValue]

instance : Wire VersionReport where
  shape := .record
    (.cons "cniVersion" .text (.cons "supportedVersions" (.list .text) .nil))
  toValue result := (result.cniVersion, result.supportedVersions, ())
  ofValue := fun (cniVersion, supportedVersions, ()) => ⟨cniVersion, supportedVersions⟩
  ofValue_toValue _ := rfl
  toValue_ofValue _ := rfl

instance : Wire ErrorReport where
  shape := .record
    (.cons "cniVersion" .text
      (.cons "code" (.natural UInt32.size)
        (.cons "msg" .text (.cons "details" (.option .text) .nil))))
  toValue result := (result.cniVersion, result.code.toFin, result.msg, result.details, ())
  ofValue := fun (cniVersion, code, msg, details, ()) =>
    ⟨cniVersion, UInt32.ofFin code, msg, details⟩
  ofValue_toValue _ := rfl
  toValue_ofValue _ := rfl

/-! ### Replies -/

/-- Whether a version is one before 1, in which addresses name their family. -/
def isEarly (version : String) : Bool :=
  ['0', '.'].isPrefixOf version.toList

def AddReport.loopback (version : String) (netns : Path) : AddReport where
  cniVersion := version
  interfaces := [⟨Device.loopback.name, some netns.display⟩]
  ips := [⟨if isEarly version then some "4" else none, loopbackAddress, some 0⟩]

def VersionReport.supported (version : String) : VersionReport :=
  ⟨version, Plugin.supportedVersions⟩

def ErrorReport.ofError (version : String) (error : Error) : ErrorReport :=
  ⟨version, error.code, error.message, error.details⟩

/-- What a command that succeeds has to say. -/
inductive Reply where
  | add (result : AddReport)
  | version (result : VersionReport)
  | empty
deriving DecidableEq, Repr

namespace Reply

/-- The text of a reply.  The empty one has none. -/
def text : Reply → String
  | .add result => Json.encode result
  | .version result => Json.encode result
  | .empty => ""

end Reply

/-- Writes a text to an output that takes a limited number of bytes: either all of
it is written, or the output fails after the bytes it could take. -/
def deliver (limit : Option Nat) (text : String) : Except Bytes String :=
  match limit with
  | none => .ok text
  | some limit =>
      let bytes := Bytes.ofString text
      if bytes.length ≤ limit then .ok text else .error (bytes.take limit)

end NetSwitch.Plugin
