import NetSwitch.Proofs.Device.Settled

/-! How the name of a device fares on the way to the kernel.

An operation makes a socket before it looks at the name.  A name that no field can carry is refused
there; with every other one a request is made, and all of its requests carry the name as it is.
-/

namespace NetSwitch

open Kernel (Descriptor Entry NameField)

namespace Device

variable {device : Device} {desired? : Option LinkState} {there : Option UInt16}
variable {before after left : Machine} {socket : Descriptor} {field : NameField}
variable {calls : List Entry} {found : Except Error UInt16}

/-! ### The operations -/

/-- An operation on a device. -/
inductive Operation where
  | state
  | bring (desired : LinkState)

namespace Operation

def Answer : Operation → Type
  | .state => LinkState
  | .bring _ => Unit

def run (device : Device) : (operation : Operation) → Op (Except Error operation.Answer)
  | .state => device.state
  | .bring desired => device.bring desired

/-- The state that an operation is to bring the device into. -/
def wanted? : Operation → Option LinkState
  | .state => none
  | .bring desired => some desired

/-- What an operation answers if it finds some flags. -/
def answer : (operation : Operation) → UInt16 → operation.Answer
  | .state, flags => stateOf flags
  | .bring _, _ => ()

theorem run_asked {operation : Operation} {answer : Except Error operation.Answer}
    (ran : operation.run device before = (answer, after)) :
    ∃ found, Asked device operation.wanted? before after found ∧ answer = found.map operation.answer := by
  cases operation with
  | state => exact state_asked ran
  | bring desired => exact bring_asked ran

/-- Without a socket nothing depends on which device it is. -/
theorem run_socketless {errno : Errno} (operation : Operation)
    (making : Syscall.socket before = (.error errno, after)) :
    operation.run device before = (.error (socketFailure errno), after) := by
  have unmade {α : Type} {use : Descriptor → Op (Except Error α)} :
      withSocket use before = (.error (socketFailure errno), after) := by
    rw [withSocket, Op.bind_apply, making]
    rfl
  cases operation with
  | state => exact unmade
  | bring desired => exact unmade

end Operation

/-- The calls of a request begin with the one that makes the socket. -/
theorem Asked.begins (asked : Asked device desired? before after found)
    (making : Syscall.socket before = (.ok socket, left))
    (trace : after.kernel.trace = before.kernel.trace ++ calls) :
    ∃ rest, calls = ⟨.socket, .made socket⟩ :: rest := by
  cases asked with
  | unmade errno failing => cases making.symm.trans failing
  | made other made used found closed opening use closing =>
      cases making.symm.trans opening
      rcases Syscall.socket_ran making with ⟨_, failed, -⟩ | ⟨_, object, -, ⟨⟩, makes⟩
      · cases failed
      obtain ⟨rest, further⟩ := ((use.quiet makes.mem_opened).trails.trans (Syscall.close_trails closing)).trace
      rw [trace, (Syscall.Does.socket making).trace, List.append_assoc] at further
      exact ⟨rest, (List.append_cancel_left further).symm⟩

/-! ### What becomes of the name -/

/-- How the name of a device fares once there is a socket, by what is answered and by the calls that are
made: either it is refused and the socket is closed again, or requests are made that carry it. -/
structure Conveyed (device : Device) (socket : Descriptor) (answer : Except Error α) (calls : List Entry) :
    Prop where
  refused : (∃ message, answer = .error (.badConfiguration message)) ↔ Unfit (Bytes.ofString device.name)
  told : ∀ message, answer = .error (.badConfiguration message) →
    message = "invalid device name: " ++ Text.quote device.name
  unasked : Unfit (Bytes.ofString device.name) →
    ∃ closed, calls = [⟨.socket, .made socket⟩, ⟨.close socket, closed⟩]
  asked : ¬ Unfit (Bytes.ofString device.name) →
    ∃ field report rest, calls = ⟨.socket, .made socket⟩ :: ⟨.getFlags socket field, report⟩ :: rest
  carried : ∀ entry ∈ calls, ∀ socket field, entry.call.addresses? = some (socket, field) →
    Carries device field

theorem Requests.addressed (requests : Requests device desired? there calls found) {entry : Entry}
    (mem : entry ∈ calls) (addresses : entry.call.addresses? = some (socket, field)) :
    device.field = .ok field := by
  cases requests <;> grind [Kernel.Call.addresses?]

theorem requestFailure_ne {request message : String} {errno : Errno} :
    device.requestFailure request errno ≠ .badConfiguration message := by
  intro same
  have refuses : Refuses device errno (device.requestFailure request errno) := requestFailure_refuses request errno
  rw [same] at refuses
  cases refuses

section Requests

variable (requests : Requests device desired? there (⟨.socket, .made socket⟩ :: calls) found)
include requests

theorem Requests.refused {e : Error} (naming : device.field = .error e) :
    found = .error e ∧ ∃ closed, calls = [⟨.close socket, closed⟩] := by
  cases requests with
  | unnamed _ closed _ given =>
      cases naming.symm.trans given
      exact ⟨rfl, closed, rfl⟩
  | unread _ _ _ _ given | read _ _ _ _ given | unwritten _ _ _ _ _ _ given | written _ _ _ _ _ given =>
      cases naming.symm.trans given

theorem Requests.begun (naming : device.field = .ok field) :
    (∀ message, found ≠ .error (.badConfiguration message)) ∧
      ∃ report rest, calls = ⟨.getFlags socket field, report⟩ :: rest := by
  cases requests with
  | unnamed _ _ _ given => cases naming.symm.trans given
  | unread _ _ _ _ given | unwritten _ _ _ _ _ _ given =>
      cases naming.symm.trans given
      refine ⟨fun message same => ?_, _, _, rfl⟩
      exact requestFailure_ne (Except.error.inj same)
  | read _ _ _ _ given | written _ _ _ _ _ given =>
      cases naming.symm.trans given
      exact ⟨by simp, _, _, rfl⟩

theorem Requests.conveyed : Conveyed device socket found (⟨.socket, .made socket⟩ :: calls) := by
  have carried (entry) (mem : entry ∈ _) (other field)
      (addresses : entry.call.addresses? = some (other, field)) :=
    carries_of_naming (requests.addressed mem addresses)
  by_cases unfit : Unfit (Bytes.ofString device.name)
  · obtain ⟨rfl, closed, rfl⟩ := requests.refused (field_of_unfit unfit)
    refine ⟨⟨fun _ => unfit, fun _ => ⟨_, rfl⟩⟩, ?_, fun _ => ⟨closed, rfl⟩, absurd unfit, carried⟩
    intro message same
    cases same
    rfl
  · obtain ⟨accepted, report, rest, rfl⟩ := requests.begun (field_of_fit unfit)
    refine ⟨⟨?_, (absurd · unfit)⟩, ?_, (absurd · unfit), fun _ => ⟨_, report, rest, rfl⟩, carried⟩
    · rintro ⟨message, same⟩
      exact absurd same (accepted message)
    · intro message same
      exact absurd same (accepted message)

end Requests

/-- What is made of flags that are found does not matter. -/
theorem Conveyed.map {found : Except Error α} (conveyed : Conveyed device socket found calls) (read : α → β) :
    Conveyed device socket (found.map read) calls := by
  have same (e : Error) : found.map read = .error e ↔ found = .error e := by
    cases found with
    | error other => constructor <;> (intro same; cases same; rfl)
    | ok value => constructor <;> (intro same; cases same)
  obtain ⟨refused, told, unasked, asked, carried⟩ := conveyed
  simp only [← same] at refused told
  exact ⟨refused, told, unasked, asked, carried⟩

/-- How the name of a device fares in an operation, whether or not there is a socket for it. -/
structure Conveys (device : Device) (operation : Operation) (before : Machine) : Prop where
  unmade : ∀ errno left, Syscall.socket before = (.error errno, left) →
    operation.run device before = (.error (socketFailure errno), left)
  made : ∀ socket left, Syscall.socket before = (.ok socket, left) →
    ∃ calls, (operation.run device before).2.kernel.trace = before.kernel.trace ++ calls ∧
      Conveyed device socket (operation.run device before).1 calls

theorem Operation.conveys (operation : Operation) (device : Device) (before : Machine) :
    Conveys device operation before where
  unmade _ _ making := operation.run_socketless making
  made socket left making := by
    cases ran : operation.run device before with
    | mk answer after =>
        obtain ⟨found, asked, rfl⟩ := run_asked ran
        obtain ⟨calls, trace, requests⟩ := asked.requests
        obtain ⟨rest, rfl⟩ := asked.begins making trace
        exact ⟨_, trace, requests.conveyed.map operation.answer⟩

/-- Some operation on the device makes a request with a field. -/
def Sends (device : Device) (field : NameField) : Prop :=
  ∃ (operation : Operation) (before : Machine) (calls : List Entry),
    (operation.run device before).2.kernel.trace = before.kernel.trace ++ calls ∧
      ∃ entry ∈ calls, ∃ socket, entry.call.addresses? = some (socket, field)

theorem carries_of_sends (sends : device.Sends field) : Carries device field := by
  obtain ⟨operation, before, calls, trace, entry, mem, socket, addresses⟩ := sends
  have ran : operation.run device before = (_, _) := rfl
  obtain ⟨found, asked, -⟩ := Operation.run_asked ran
  obtain ⟨made, same, requests⟩ := asked.requests
  obtain rfl : calls = made := List.append_cancel_left (trace.symm.trans same)
  exact carries_of_naming (requests.addressed mem addresses)

/-- A request is made with every name that fits: a machine at rest has a socket for it. -/
theorem sends_of_fit (fit : ¬ Unfit (Bytes.ofString device.name)) :
    device.Sends (.filled (Bytes.ofString device.name)) := by
  have making : Syscall.socket Machine.host = (.ok ⟨1⟩, (Syscall.socket Machine.host).2) := rfl
  obtain ⟨calls, trace, conveyed⟩ := (Operation.state.conveys device Machine.host).made _ _ making
  obtain ⟨field, report, rest, rfl⟩ := conveyed.asked fit
  have mem : ⟨.getFlags ⟨1⟩ field, report⟩ ∈ ⟨.socket, .made ⟨1⟩⟩ :: ⟨.getFlags ⟨1⟩ field, report⟩ :: rest := by
    simp
  obtain rfl := (conveyed.carried _ mem _ _ rfl).written
  exact ⟨.state, _, _, trace, _, mem, _, rfl⟩

/-- The name of a device reaches the kernel as it is, or no request is made.  So no two devices are
taken for one, whichever operations on them make the requests. -/
theorem names_unaltered :
    (∀ (device : Device) (operation : Operation) (before : Machine), Conveys device operation before) ∧
      ∀ (device other : Device) (field field' : NameField), device.Sends field → other.Sends field' →
        device ≠ other → ∀ target, ¬ (field.Addresses target ∧ field'.Addresses target) := by
  refine ⟨fun device operation before => operation.conveys device before, ?_⟩
  rintro device other field field' sends sends' differ target ⟨addresses, addresses'⟩
  have same : target.name = device.name := ((carries_of_sends sends).found target).mp addresses
  have same' : target.name = other.name := ((carries_of_sends sends').found target).mp addresses'
  cases device
  cases other
  exact differ (congrArg Device.mk (same.symm.trans same'))

/-- A device with a name of eight characters, but of fifteen bytes, which is the most there is room for. -/
def accented : Device := ⟨"éééééééa"⟩

/-- A device with a name that differs in its last byte. -/
def neighbour : Device := ⟨"éééééééb"⟩

/-- A host on which both devices are down. -/
def neighboured : Machine :=
  { Machine.host with kernel := { Machine.host.kernel with
      namespaces := [⟨"host", ⟨4026531840⟩, [⟨accented.name, 0⟩, ⟨neighbour.name, 0⟩]⟩] } }

theorem names_unaltered_neighboured :
    (∃ calls, ((Operation.bring .up).run accented neighboured).2.kernel.trace = neighboured.kernel.trace ++ calls ∧
      Conveyed accented ⟨1⟩ (.ok ()) calls) ∧
      accented.Sends (.filled (Bytes.ofString accented.name)) ∧
      neighbour.Sends (.filled (Bytes.ofString neighbour.name)) ∧ accented ≠ neighbour ∧
      ∀ target, ¬ ((NameField.filled (Bytes.ofString accented.name)).Addresses target ∧
        (NameField.filled (Bytes.ofString neighbour.name)).Addresses target) := by
  have sends : accented.Sends (.filled (Bytes.ofString accented.name)) := sends_of_fit (by decide)
  have sends' : neighbour.Sends (.filled (Bytes.ofString neighbour.name)) := sends_of_fit (by decide)
  have differ : accented ≠ neighbour := by decide
  refine ⟨?_, sends, sends', differ, names_unaltered.2 _ _ _ _ sends sends' differ⟩
  have making : Syscall.socket neighboured = (.ok ⟨1⟩, (Syscall.socket neighboured).2) := rfl
  obtain ⟨calls, trace, conveyed⟩ := (names_unaltered.1 accented (.bring .up) neighboured).made _ _ making
  exact ⟨calls, trace, conveyed⟩

end Device

end NetSwitch
