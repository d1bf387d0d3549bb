import NetSwitch.Proofs.Device.Asked

/-! What becomes of a device that is brought into a state.

The flags are read and written by two requests, each of which may fail.  `Requests` lists the calls that
are made, with what they come to; that the flags are those of the device where the thread is comes
from `Asked`.
-/

namespace NetSwitch

open Kernel (Call CallKind Descriptor Entry NameField Report)

/-- No call of these fails, unless it closes something. -/
def Kernel.Succeed (calls : List Entry) : Prop :=
  ∀ entry ∈ calls, entry.call.kind ≠ .close → ∀ errno, entry.report ≠ .failed errno

namespace Device

variable {device : Device} {desired? : Option LinkState} {desired : LinkState} {flags : UInt16}
variable {before after : Machine} {calls : List Entry} {found : Except Error UInt16}
variable {there : Option UInt16} {answer : Except Error Unit}

/-! ### The calls of a request -/

/-- The calls of a request about the flags of a device, what they answer, and what it comes to. -/
inductive Requests (device : Device) (desired? : Option LinkState) (there : Option UInt16) :
    List Entry → Except Error UInt16 → Prop where
  | unmade (errno : Errno) :
      Requests device desired? there [⟨.socket, .failed errno⟩] (.error (socketFailure errno))
  | unnamed (socket : Descriptor) (closed : Report) (e : Error) (naming : device.field = .error e) :
      Requests device desired? there [⟨.socket, .made socket⟩, ⟨.close socket, closed⟩] (.error e)
  | unread (socket : Descriptor) (closed : Report) (field : NameField) (errno : Errno)
      (naming : device.field = .ok field) :
      Requests device desired? there
        [⟨.socket, .made socket⟩, ⟨.getFlags socket field, .failed errno⟩, ⟨.close socket, closed⟩]
        (.error (device.requestFailure "SIOCGIFFLAGS" errno))
  | read (socket : Descriptor) (closed : Report) (field : NameField) (flags : UInt16)
      (naming : device.field = .ok field) (isThere : there = some flags)
      (fits : ∀ desired ∈ desired?, stateOf flags = desired) :
      Requests device desired? there
        [⟨.socket, .made socket⟩, ⟨.getFlags socket field, .ok⟩, ⟨.close socket, closed⟩] (.ok flags)
  | unwritten (socket : Descriptor) (closed : Report) (field : NameField) (flags : UInt16)
      (desired : LinkState) (errno : Errno) (naming : device.field = .ok field)
      (isThere : there = some flags) (wanted : desired? = some desired) (differs : stateOf flags ≠ desired) :
      Requests device desired? there
        [⟨.socket, .made socket⟩, ⟨.getFlags socket field, .ok⟩,
          ⟨.setFlags socket field (withState flags desired), .failed errno⟩, ⟨.close socket, closed⟩]
        (.error (device.requestFailure "SIOCSIFFLAGS" errno))
  | written (socket : Descriptor) (closed : Report) (field : NameField) (flags : UInt16)
      (desired : LinkState) (naming : device.field = .ok field) (isThere : there = some flags)
      (wanted : desired? = some desired) (differs : stateOf flags ≠ desired) :
      Requests device desired? there
        [⟨.socket, .made socket⟩, ⟨.getFlags socket field, .ok⟩,
          ⟨.setFlags socket field (withState flags desired), .ok⟩, ⟨.close socket, closed⟩] (.ok flags)

/-- The device's flags, as the thread sees them. -/
def flagsSeen (device : Device) (machine : Machine) : Option UInt16 :=
  machine.kernel.flags? machine.thread.location (Bytes.ofString device.name)

theorem Asked.requests (asked : Asked device desired? before after found) :
    ∃ calls, after.kernel.trace = before.kernel.trace ++ calls ∧
      Requests device desired? (device.flagsSeen before) calls found := by
  cases asked with
  | unmade errno making => exact ⟨_, (Syscall.Does.socket making).trace, .unmade errno⟩
  | made socket made used found closed making use closing =>
      have around {inner : List Entry} (uses : used.kernel.trace = made.kernel.trace ++ inner) :
          after.kernel.trace = before.kernel.trace ++
            ⟨.socket, .made socket⟩ :: (inner ++ [⟨.close socket, Syscall.noteOf (fun _ => .ok) closed⟩]) := by
        rw [(Syscall.Does.close closing).trace, uses, (Syscall.Does.socket making).trace]
        simp [Syscall.noteOf]
      have seen {field : NameField} {flags : UInt16} {left : Machine} (naming : device.field = .ok field)
          (reading : Syscall.getFlags socket field made = (.ok flags, left)) :
          device.flagsSeen before = some flags := by
        rcases Syscall.socket_ran making with ⟨_, failed, -⟩ | ⟨_, object, rfl, ⟨⟩, makes⟩
        · cases failed
        have there := Syscall.getFlags_ok makes.object? reading
        have same := (Syscall.Does.socket making).namespaces (by simp [Call.kind])
        rwa [field_name naming, Kernel.flags?_of_namespaces same] at there
      cases use with
      | unnamed e naming same =>
          exact ⟨_, around (by rw [same, List.append_nil]), .unnamed socket _ e naming⟩
      | unread field errno naming reading =>
          exact ⟨_, around (Syscall.Does.getFlags reading).trace, .unread socket _ field errno naming⟩
      | read field flags read naming reading fits alike =>
          have reads := (Syscall.Does.getFlags reading).trace
          rw [← alike.kernel] at reads
          exact ⟨_, around reads, .read socket _ field flags naming (seen naming reading) fits⟩
      | unwritten field flags desired errno read naming reading wanted differs writing =>
          have writes := (Syscall.Does.setFlags writing).trace
          rw [(Syscall.Does.getFlags reading).trace, List.append_assoc] at writes
          exact ⟨_, around writes, .unwritten socket _ field flags desired errno naming
            (seen naming reading) wanted differs⟩
      | written field flags desired read wrote naming reading wanted differs writing alike =>
          have writes := (Syscall.Does.setFlags writing).trace
          rw [(Syscall.Does.getFlags reading).trace, List.append_assoc, ← alike.kernel] at writes
          exact ⟨_, around writes, .written socket _ field flags desired naming (seen naming reading)
            wanted differs⟩

/-- The error that a call gives rise to if it fails.  Closing the socket gives rise to none. -/
def failure? (device : Device) : Entry → Option Error
  | ⟨.socket, .failed errno⟩ => some (socketFailure errno)
  | ⟨.getFlags _ _, .failed errno⟩ => some (device.requestFailure "SIOCGIFFLAGS" errno)
  | ⟨.setFlags _ _ _, .failed errno⟩ => some (device.requestFailure "SIOCSIFFLAGS" errno)
  | _ => none

/-- What some calls come to: the error of the first that gives rise to one, or else that of a name
which no request can be made with. -/
def verdict (device : Device) (calls : List Entry) : Except Error Unit :=
  match calls.findSome? device.failure?, device.field with
  | some e, _ => .error e
  | none, .error e => .error e
  | none, .ok _ => .ok ()

theorem Requests.verdict (requests : Requests device desired? there calls found) :
    found.map (fun _ => ()) = device.verdict calls := by
  cases requests with
  | unmade errno => rfl
  | unnamed socket closed e naming | unread socket closed field errno naming
  | read socket closed field flags naming | unwritten socket closed field flags desired errno naming
  | written socket closed field flags desired naming =>
      rw [Device.verdict, naming]
      rfl

/-- The kind of error that a refused request about the flags of a device is reported as. -/
inductive Refuses (device : Device) : Errno → Error → Prop where
  | missing : Refuses device .noDevice (.deviceNotFound device.name)
  | denied {errno : Errno} (message : String) (isDenial : errno = .notPermitted ∨ errno = .accessDenied) :
      Refuses device errno (.permissionDenied message)
  | other {errno : Errno} (path : Path) (isPresent : errno ≠ .noDevice) (isAllowed : errno ≠ .notPermitted)
      (isAccessible : errno ≠ .accessDenied) : Refuses device errno (.io path (.os errno.byName))

theorem requestFailure_refuses (request : String) (errno : Errno) :
    Refuses device errno (device.requestFailure request errno) := by
  unfold requestFailure
  split
  · next missing => exact missing ▸ .missing
  · next isPresent =>
      split
      · next denied => exact .denied _ denied
      · next allowed =>
          exact .other _ isPresent (fun same => allowed (.inl same)) fun same => allowed (.inr same)

/-- A call that reads or writes flags. -/
def AsksFlags (entry : Entry) : Prop :=
  entry.call.kind = .getFlags ∨ entry.call.kind = .setFlags

theorem Requests.refuses (requests : Requests device desired? there calls found) {entry : Entry}
    (mem : entry ∈ calls) (asks : AsksFlags entry) {errno : Errno} (failed : entry.report = .failed errno) :
    ∃ e, found = .error e ∧ Refuses device errno e := by
  cases requests with
  | unread socket closed field other naming =>
      simp only [List.mem_cons, List.not_mem_nil, or_false] at mem
      rcases mem with rfl | rfl | rfl
      · simp [AsksFlags, Call.kind] at asks
      · cases failed
        exact ⟨_, rfl, requestFailure_refuses _ _⟩
      · simp [AsksFlags, Call.kind] at asks
  | unwritten socket closed field flags desired other naming =>
      simp only [List.mem_cons, List.not_mem_nil, or_false] at mem
      rcases mem with rfl | rfl | rfl | rfl
      · simp [AsksFlags, Call.kind] at asks
      · cases failed
      · cases failed
        exact ⟨_, rfl, requestFailure_refuses _ _⟩
      · simp [AsksFlags, Call.kind] at asks
  | unmade | unnamed | read | written => grind [AsksFlags, Call.kind]

/-- A device that is in the state that is wanted is not written to. -/
theorem Requests.idle (requests : Requests device (some desired) (some flags) calls found)
    (fits : stateOf flags = desired) :
    (∀ entry ∈ calls, entry.call.kind ≠ .setFlags) ∧
      ∀ socket field, ⟨.getFlags socket field, .ok⟩ ∈ calls → ∃ flags, found = .ok flags := by
  cases requests with
  | unwritten _ _ _ other _ _ _ isThere wanted differs | written _ _ _ other _ _ isThere wanted differs =>
      cases isThere
      cases wanted
      exact absurd fits differs
  | unmade | unnamed | unread | read => simp [Call.kind]

theorem verdict_of_succeed {field : NameField} (naming : device.field = .ok field)
    (succeed : Kernel.Succeed calls) : device.verdict calls = .ok () := by
  have silent : calls.findSome? device.failure? = none := by
    refine List.findSome?_eq_none_iff.mpr fun entry mem => ?_
    unfold failure?
    split
    case h_4 => rfl
    all_goals exact absurd rfl (succeed _ mem (by simp [Call.kind]) _)
  rw [verdict, silent, naming]

/-! ### What a request leaves behind -/

/-- The bit for being up is as it is in a state, and the others are as they were. -/
theorem withState_bit {index : Nat} :
    (withState flags desired).toBitVec.getLsbD index =
      if index = 0 then desired.isUp else flags.toBitVec.getLsbD index := by
  by_cases bound : index < 16
  · rw [BitVec.getLsbD_eq_getElem bound, BitVec.getLsbD_eq_getElem bound]
    cases desired <;> by_cases first : index = 0 <;> simp [withState, upFlag_bit, first, LinkState.isUp]
  · have other : index ≠ 0 := by omega
    rw [if_neg other, BitVec.getLsbD_of_ge _ _ (by omega), BitVec.getLsbD_of_ge _ _ (by omega)]

/-- A device is in a state, and nothing else has changed: not one other bit of its flags, and no other
device anywhere. -/
structure Sets (device : Device) (desired : LinkState) (before after : Machine) : Prop where
  bits : ∃ old new, device.flagsSeen before = some old ∧ device.flagsSeen after = some new ∧
    stateOf new = desired ∧ ∀ index, new.toBitVec.getLsbD index =
      if index = 0 then desired.isUp else old.toBitVec.getLsbD index
  others : ∀ location name, ¬ (location = before.thread.location ∧ name = Bytes.ofString device.name) →
    after.kernel.flags? location name = before.kernel.flags? location name
  layout : after.kernel.layout = before.kernel.layout

/-- A device stays in a state: that is what is read if the calls for it succeed, and bringing it into
that state changes nothing. -/
structure Remains (device : Device) (desired : LinkState) (machine : Machine) : Prop where
  read : ∀ answer after calls, device.state machine = (answer, after) →
    after.kernel.trace = machine.kernel.trace ++ calls → Kernel.Succeed calls → answer = .ok desired
  repeated : ∀ answer after, device.bring desired machine = (answer, after) →
    after.kernel.namespaces = machine.kernel.namespaces

/-- What it comes to that a device is brought into a state by some calls. -/
structure Settles (device : Device) (desired : LinkState) (before after : Machine)
    (answer : Except Error Unit) (calls : List Entry) : Prop where
  trace : after.kernel.trace = before.kernel.trace ++ calls
  thread : after.thread = before.thread
  verdict : answer = device.verdict calls
  refuses : ∀ entry ∈ calls, AsksFlags entry → ∀ errno, entry.report = .failed errno →
    ∃ e, answer = .error e ∧ Refuses device errno e
  sets : answer = .ok () → Sets device desired before after
  spares : ∀ e, answer = .error e → after.kernel.namespaces = before.kernel.namespaces
  idles : ∀ flags, device.flagsSeen before = some flags → stateOf flags = desired →
    (∀ entry ∈ calls, entry.call.kind ≠ .setFlags) ∧
      ∀ socket field, ⟨.getFlags socket field, .ok⟩ ∈ calls → answer = .ok ()
  remains : answer = .ok () → ∀ later, later.kernel.namespaces = after.kernel.namespaces →
    later.thread.location = before.thread.location → Remains device desired later

theorem Answered.sets {flags : UInt16}
    (answered : Answered device (some desired) before.thread.location before after (.ok flags))
    (stays : after.thread = before.thread) : Sets device desired before after := by
  obtain ⟨seen, left⟩ := answered.read flags rfl
  refine ⟨⟨flags, withState flags desired, seen, ?_, stateOf_withState, fun index => withState_bit⟩, ?_,
    layout_of_requested left⟩
  · rw [flagsSeen, stays, flags?_of_requested left, if_pos ⟨rfl, rfl⟩, seen]
    rfl
  · intro location name other
    rw [flags?_of_requested left, if_neg other]

/-- What is seen of a device in a state stays that way. -/
theorem remains_of_seen {field : NameField} (naming : device.field = .ok field)
    (seen : device.flagsSeen before = some flags) (fits : stateOf flags = desired) :
    Remains device desired before where
  read answer after calls ran trace succeed := by
    obtain ⟨found, asked, rfl⟩ := state_asked ran
    obtain ⟨made, same, requests⟩ := asked.requests
    obtain rfl : calls = made := List.append_cancel_left (trace.symm.trans same)
    have verdict := requests.verdict
    rw [verdict_of_succeed naming succeed] at verdict
    rcases found with e | found
    · cases verdict
    · have read := (asked.answered.read found rfl).1
      rw [← flagsSeen, seen] at read
      cases read
      exact congrArg Except.ok fits
  repeated answer after ran := by
    obtain ⟨found, asked, -⟩ := bring_asked ran
    rcases found with e | found
    · exact asked.answered.failed e rfl
    · obtain ⟨read, left⟩ := asked.answered.read found rfl
      cases seen.symm.trans read
      exact left.trans (requested_of_fits read (by simpa using fits))

theorem Requests.named {flags : UInt16} (requests : Requests device desired? there calls (.ok flags)) :
    ∃ field, device.field = .ok field := by
  cases requests with
  | read _ _ field _ naming | written _ _ field _ _ naming => exact ⟨field, naming⟩

/-- Bringing a device into a state acts where the thread is.  It changes one bit of the flags of that
device if it succeeds, and nothing otherwise. -/
theorem bring_settles (ran : device.bring desired before = (answer, after)) :
    ∃ calls, Settles device desired before after answer calls := by
  obtain ⟨found, asked, rfl⟩ := bring_asked ran
  obtain ⟨calls, trace, requests⟩ := asked.requests
  have answered := asked.answered
  have thread := asked.quiet.thread
  refine ⟨calls, trace, thread, requests.verdict, ?_, ?_, ?_, ?_, ?_⟩
  · intro entry mem asks errno failed
    obtain ⟨e, rfl, refuses⟩ := requests.refuses mem asks failed
    exact ⟨e, rfl, refuses⟩
  · intro done
    rcases found with e | flags
    · cases done
    · exact answered.sets thread
  · intro e failed
    rcases found with found | flags
    · exact answered.failed found rfl
    · cases failed
  · intro flags seen fits
    rw [seen] at requests
    obtain ⟨unwritten, reads⟩ := requests.idle fits
    refine ⟨unwritten, fun socket field mem => ?_⟩
    obtain ⟨flags, rfl⟩ := reads socket field mem
    rfl
  · intro done later same here
    rcases found with e | flags
    · cases done
    obtain ⟨field, naming⟩ := requests.named
    obtain ⟨old, new, -, seen, fits, -⟩ := (answered.sets thread).bits
    refine remains_of_seen naming ?_ fits
    rw [flagsSeen, Kernel.flags?_of_namespaces same, here, ← thread]
    exact seen

/-- A host of which the loopback device is down, and has the highest flag set. -/
def signed : Machine :=
  { Machine.host with kernel := { Machine.host.kernel with namespaces := [⟨"host", ⟨4026531840⟩, [⟨"lo", 0x8008⟩]⟩] } }

theorem bring_settles_signed : ∃ after calls,
    loopback.bring .up signed = (.ok (), after) ∧ Settles loopback .up signed after (.ok ()) calls ∧
      loopback.flagsSeen after = some 0x8009 ∧ Remains loopback .up after := by
  have ran : loopback.bring .up signed = (.ok (), (loopback.bring .up signed).2) := rfl
  obtain ⟨calls, settles⟩ := bring_settles ran
  exact ⟨_, calls, rfl, settles, rfl, settles.remains rfl _ rfl rfl⟩

end Device

end NetSwitch
