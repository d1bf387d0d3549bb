import NetSwitch.Proofs.Calls
import NetSwitch.Proofs.Device.Field
import NetSwitch.Proofs.Kernel.Flags

/-! What operations on a device ask of the kernel, and what they make of the flags.

Reading a device's state and bringing it into one go the same way: a socket is made, the flags
are read, they are written if a state is wanted that the device is not in, and the socket is
closed.  `Asked` follows that way call by call.
-/

namespace NetSwitch

open Kernel (Call Descriptor Entry NameField Object)

/-! ### The calls -/

namespace Syscall

variable {before after : Machine} {socket : Descriptor} {field : NameField} {location : String}

theorem getFlags_ok {flags : UInt16} (bound : before.kernel.object? socket = some (.socket location))
    (ran : getFlags socket field before = (.ok flags, after)) :
    before.kernel.flags? location field.name = some flags := by
  rcases request_ran ran with ⟨errno, failed, -⟩ | ⟨served, ranServe, -⟩
  · cases failed
  · have same : (before.met (Call.getFlags socket field).kind).kernel.object? socket =
        some (.socket location) := bound
    simp only [Op.kernel_bind, same] at ranServe
    have found : (before.met (Call.getFlags socket field).kind).kernel.flags? location field.name =
        before.kernel.flags? location field.name := rfl
    rw [found] at ranServe
    cases read : before.kernel.flags? location field.name with
    | none =>
        rw [read] at ranServe
        cases ranServe
    | some flags =>
        rw [read] at ranServe
        cases ranServe
        rfl

theorem getFlags_bound {answer : Except Errno UInt16}
    (bound : before.kernel.object? socket = some (.socket location))
    (ran : getFlags socket field before = (answer, after)) :
    after.kernel.object? socket = some (.socket location) := by
  rw [(getFlags_quiet (Kernel.opened_of_object? bound) ran).object?, bound]

/-- Flags are set for a device of the namespace that the socket is bound to, or nothing is
changed. -/
theorem setFlags_namespaces {flags : UInt16} {answer : Except Errno Unit}
    (bound : before.kernel.object? socket = some (.socket location))
    (ran : setFlags socket field flags before = (answer, after)) :
    after.kernel.namespaces = match answer with
      | .ok () => (before.kernel.setFlags location field.name flags).namespaces
      | .error _ => before.kernel.namespaces := by
  rcases request_ran ran with ⟨errno, rfl, rfl⟩ | ⟨served, ranServe, rfl⟩
  · rfl
  · have same : (before.met (Call.setFlags socket field flags).kind).kernel.object? socket =
        some (.socket location) := bound
    simp only [Op.kernel_bind, same] at ranServe
    split at ranServe
    · cases ranServe
      rfl
    · simp only [Op.thread_bind] at ranServe
      split at ranServe
      · cases ranServe
        rfl
      · cases ranServe
        rfl

end Syscall

/-- The socket and the name field that a request about flags is made with. -/
def Kernel.Call.addresses? : Call → Option (Descriptor × NameField)
  | .getFlags descriptor field => some (descriptor, field)
  | .setFlags descriptor field _ => some (descriptor, field)
  | _ => none

/-- A call that moves no thread and, if it has to do with a device, is made in a namespace and
about one device there: requests go to a socket that is bound to the namespace. -/
structure Moment.Within (moment : Moment Entry) (location : String) (device : Bytes) : Prop where
  stays : moment.step.moves = false
  placed : moment.step.concernsDevice = true → moment.start.thread.location = location
  addressed : ∀ socket field, moment.step.call.addresses? = some (socket, field) →
    field.name = device ∧ moment.start.kernel.object? socket = some (.socket location)

namespace Device

variable {device : Device} {desired? : Option LinkState} {socket : Descriptor}
variable {before middle after : Machine} {location : String}

def socketFailure (errno : Errno) : Error :=
  .io (Bytes.ofString "socket(AF_INET, SOCK_DGRAM)") (.os errno.byName)

/-- How a request about flags fares on a socket.  It comes to the flags that were read. -/
inductive Used (device : Device) (desired? : Option LinkState) (socket : Descriptor)
    (before after : Machine) : Except Error UInt16 → Prop where
  | unnamed (e : Error) (naming : device.field = .error e) (same : after = before) :
      Used device desired? socket before after (.error e)
  | unread (field : NameField) (errno : Errno) (naming : device.field = .ok field)
      (reading : Syscall.getFlags socket field before = (.error errno, after)) :
      Used device desired? socket before after (.error (device.requestFailure "SIOCGIFFLAGS" errno))
  | read (field : NameField) (flags : UInt16) (read : Machine) (naming : device.field = .ok field)
      (reading : Syscall.getFlags socket field before = (.ok flags, read))
      (fits : ∀ desired ∈ desired?, stateOf flags = desired) (alike : read.Alike after) :
      Used device desired? socket before after (.ok flags)
  | unwritten (field : NameField) (flags : UInt16) (desired : LinkState) (errno : Errno)
      (read : Machine) (naming : device.field = .ok field)
      (reading : Syscall.getFlags socket field before = (.ok flags, read))
      (wanted : desired? = some desired) (differs : stateOf flags ≠ desired)
      (writing : Syscall.setFlags socket field (withState flags desired) read = (.error errno, after)) :
      Used device desired? socket before after (.error (device.requestFailure "SIOCSIFFLAGS" errno))
  | written (field : NameField) (flags : UInt16) (desired : LinkState) (read wrote : Machine)
      (naming : device.field = .ok field)
      (reading : Syscall.getFlags socket field before = (.ok flags, read))
      (wanted : desired? = some desired) (differs : stateOf flags ≠ desired)
      (writing : Syscall.setFlags socket field (withState flags desired) read = (.ok (), wrote))
      (alike : wrote.Alike after) : Used device desired? socket before after (.ok flags)

/-- How a request about flags fares with a socket of its own. -/
inductive Asked (device : Device) (desired? : Option LinkState) (before after : Machine) :
    Except Error UInt16 → Prop where
  | unmade (errno : Errno) (making : Syscall.socket before = (.error errno, after)) :
      Asked device desired? before after (.error (socketFailure errno))
  | made (socket : Descriptor) (made used : Machine) (found : Except Error UInt16)
      (closed : Except Errno Unit) (making : Syscall.socket before = (.ok socket, made))
      (use : Used device desired? socket made used found)
      (closing : Syscall.close socket used = (closed, after)) :
      Asked device desired? before after found

theorem withSocket_asked {use : Descriptor → Op (Except Error α)} {value : UInt16 → α}
    {answer : Except Error α}
    (uses : ∀ {socket before answer after}, use socket before = (answer, after) →
      ∃ found, Used device desired? socket before after found ∧ answer = found.map value)
    (ran : withSocket use before = (answer, after)) :
    ∃ found, Asked device desired? before after found ∧ answer = found.map value := by
  obtain ⟨found, made, ranSocket, ranRest⟩ := Op.bind_ran.mp ran
  rcases found with errno | socket
  · cases ranRest
    exact ⟨_, .unmade errno ranSocket, rfl⟩
  · obtain ⟨outcome, used, ranUse, ranRest⟩ := Op.bind_ran.mp ranRest
    obtain ⟨closed, last, ranClose, ranRest⟩ := Op.bind_ran.mp ranRest
    cases ranRest
    obtain ⟨found, use, rfl⟩ := uses ranUse
    exact ⟨found, .made socket made used found closed ranSocket use ranClose, rfl⟩

/-- The flags are not read because the device cannot be named or the request fails, or they are
read with the name field that the request was made with. -/
theorem readFlags_cases {answer : Except Error (NameField × UInt16)}
    (ran : device.readFlags socket before = (answer, after)) :
    (∃ e, answer = .error e ∧ Used device desired? socket before after (.error e)) ∨
      ∃ field flags, answer = .ok (field, flags) ∧ device.field = .ok field ∧
        Syscall.getFlags socket field before = (.ok flags, after) := by
  unfold readFlags at ran
  cases naming : device.field with
  | error e =>
      rw [naming] at ran
      cases ran
      exact .inl ⟨e, rfl, .unnamed e naming rfl⟩
  | ok field =>
      rw [naming] at ran
      obtain ⟨found, middle, ranGet, ranRest⟩ := Op.bind_ran.mp ran
      rcases found with errno | flags
      · cases ranRest
        exact .inl ⟨_, rfl, .unread field errno naming ranGet⟩
      · cases ranRest
        exact .inr ⟨field, flags, rfl, rfl, ranGet⟩

theorem state_asked {answer : Except Error LinkState} (ran : device.state before = (answer, after)) :
    ∃ found, Asked device none before after found ∧ answer = found.map stateOf := by
  refine withSocket_asked (fun {socket before answer after} ranUse => ?_) ran
  obtain ⟨found, middle, ranRead, ranRest⟩ := Op.bind_ran.mp ranUse
  rcases readFlags_cases ranRead with ⟨e, rfl, failed⟩ | ⟨field, flags, rfl, naming, reading⟩
  · cases ranRest
    exact ⟨_, failed, rfl⟩
  · cases ranRest
    exact ⟨_, .read field flags _ naming reading (by simp) (.refl _), rfl⟩

theorem bring_asked {desired : LinkState} {answer : Except Error Unit}
    (ran : device.bring desired before = (answer, after)) :
    ∃ found, Asked device (some desired) before after found ∧ answer = found.map fun _ => () := by
  refine withSocket_asked (fun {socket before answer after} ranUse => ?_) ran
  obtain ⟨found, middle, ranRead, ranRest⟩ := Op.bind_ran.mp ranUse
  rcases readFlags_cases ranRead with ⟨e, rfl, failed⟩ | ⟨field, flags, rfl, naming, reading⟩
  · cases ranRest
    exact ⟨_, failed, rfl⟩
  · dsimp only at ranRest
    by_cases same : stateOf flags = desired
    · rw [if_pos same] at ranRest
      obtain ⟨⟨⟩, last, ranEmit, ranRest⟩ := Op.bind_ran.mp ranRest
      cases ranRest
      exact ⟨_, .read field flags _ naming reading (by simpa using same)
        (Op.emit_alike ranEmit), rfl⟩
    · rw [if_neg same] at ranRest
      obtain ⟨answered, wrote, ranSet, ranRest⟩ := Op.bind_ran.mp ranRest
      rcases answered with errno | ⟨⟩
      · cases ranRest
        exact ⟨_, .unwritten field flags desired errno _ naming reading rfl same ranSet, rfl⟩
      · obtain ⟨⟨⟩, last, ranEmit, ranRest⟩ := Op.bind_ran.mp ranRest
        cases ranRest
        exact ⟨_, .written field flags desired _ wrote naming reading rfl same ranSet
          (Op.emit_alike ranEmit), rfl⟩

theorem Used.quiet {found : Except Error UInt16} (use : Used device desired? socket before after found)
    (isOpen : socket ∈ before.kernel.opened) : before.Quiet after := by
  cases use with
  | unnamed e naming same => exact same ▸ .refl _
  | unread field errno naming reading => exact Syscall.getFlags_quiet isOpen reading
  | read field flags read naming reading fits alike =>
      exact (Syscall.getFlags_quiet isOpen reading).trans alike.quiet
  | unwritten field flags desired errno read naming reading wanted differs writing =>
      have quiet := Syscall.getFlags_quiet isOpen reading
      exact quiet.trans (Syscall.setFlags_quiet (quiet.opened ▸ isOpen) writing)
  | written field flags desired read wrote naming reading wanted differs writing alike =>
      have quiet := Syscall.getFlags_quiet isOpen reading
      exact (quiet.trans (Syscall.setFlags_quiet (quiet.opened ▸ isOpen) writing)).trans alike.quiet

theorem Asked.quiet {found : Except Error UInt16} (asked : Asked device desired? before after found) :
    before.Quiet after := by
  cases asked with
  | unmade errno making =>
      rcases Syscall.socket_ran making with ⟨_, -, quiet⟩ | ⟨_, _, -, made, -⟩
      · exact quiet
      · cases made
  | made socket made used found closed making use closing =>
      rcases Syscall.socket_ran making with ⟨_, failed, -⟩ | ⟨_, object, -, ⟨⟩, makes⟩
      · cases failed
      have left := makes.trans_quiet (use.quiet makes.mem_opened)
      exact left.trans_close (Syscall.close_works left.mem_opened closing)

/-! ### What becomes of the flags -/

/-- The namespaces of a kernel after a request about the flags of a device. -/
def requested (kernel : Kernel) (location : String) (device : Device) (desired? : Option LinkState) :
    List Kernel.Namespace :=
  (desired?.elim kernel (kernel.brought location (Bytes.ofString device.name))).namespaces

theorem requested_of_fits {kernel : Kernel} {flags : UInt16}
    (found : kernel.flags? location (Bytes.ofString device.name) = some flags)
    (fits : ∀ desired ∈ desired?, stateOf flags = desired) :
    requested kernel location device desired? = kernel.namespaces := by
  cases desired? with
  | none => rfl
  | some desired => simp [requested, Kernel.brought, found, fits desired rfl]

theorem flags?_of_requested {kernel left : Kernel} {desired : LinkState} {other : String} {name : Bytes}
    (same : left.namespaces = requested kernel location device (some desired)) :
    left.flags? other name = if other = location ∧ name = Bytes.ofString device.name then
      (kernel.flags? other name).map (withState · desired) else kernel.flags? other name :=
  (Kernel.flags?_of_namespaces same).trans Kernel.flags?_brought

theorem layout_of_requested {kernel left : Kernel}
    (same : left.namespaces = requested kernel location device desired?) : left.layout = kernel.layout := by
  refine (Kernel.layout_of_namespaces same).trans ?_
  cases desired? with
  | none => rfl
  | some desired => exact Kernel.layout_brought

/-- The flags that are found are those of the device where the thread is, and that device is
brought into the state that is wanted.  A request that fails changes no flags. -/
structure Answered (device : Device) (desired? : Option LinkState) (location : String)
    (before after : Machine) (found : Except Error UInt16) : Prop where
  read : ∀ flags, found = .ok flags →
    before.kernel.flags? location (Bytes.ofString device.name) = some flags ∧
      after.kernel.namespaces = requested before.kernel location device desired?
  failed : ∀ e, found = .error e → after.kernel.namespaces = before.kernel.namespaces

theorem Answered.of_error {e : Error}
    (same : after.kernel.namespaces = before.kernel.namespaces) :
    Answered device desired? location before after (.error e) :=
  ⟨by simp, fun _ _ => same⟩

theorem Answered.of_ok {flags : UInt16}
    (read : before.kernel.flags? location (Bytes.ofString device.name) = some flags)
    (left : after.kernel.namespaces = requested before.kernel location device desired?) :
    Answered device desired? location before after (.ok flags) := by
  refine ⟨fun value same => ?_, by simp⟩
  cases same
  exact ⟨read, left⟩

variable {found : Except Error UInt16}

theorem Answered.transfer {start final : Machine}
    (answered : Answered device desired? location before after found)
    (begun : before.kernel.namespaces = start.kernel.namespaces)
    (ended : final.kernel.namespaces = after.kernel.namespaces) :
    Answered device desired? location start final found where
  read flags same := by
    obtain ⟨read, left⟩ := answered.read flags same
    rw [Kernel.flags?_of_namespaces begun] at read
    refine ⟨read, ended.trans (left.trans ?_)⟩
    cases desired? with
    | none => exact begun
    | some desired => exact Kernel.brought_of_namespaces begun
  failed e same := ended.trans ((answered.failed e same).trans begun)

theorem Used.answered (use : Used device desired? socket before after found)
    (bound : before.kernel.object? socket = some (.socket location)) :
    Answered device desired? location before after found := by
  cases use with
  | unnamed e naming same =>
      subst same
      exact .of_error rfl
  | unread field errno naming reading =>
      exact .of_error ((Syscall.Does.getFlags reading).namespaces (by simp [Call.kind]))
  | read field flags read naming reading fits alike =>
      have flags := Syscall.getFlags_ok bound reading
      rw [field_name naming] at flags
      refine .of_ok flags ?_
      have same := (Syscall.Does.getFlags reading).namespaces (by simp [Call.kind])
      rw [alike.kernel, same, requested_of_fits flags fits]
  | unwritten field flags desired errno read naming reading wanted differs writing =>
      have same := (Syscall.Does.getFlags reading).namespaces (by simp [Call.kind])
      have still := Syscall.getFlags_bound bound reading
      exact .of_error ((Syscall.setFlags_namespaces still writing).trans same)
  | written field flags desired read wrote naming reading wanted differs writing alike =>
      have found := Syscall.getFlags_ok bound reading
      rw [field_name naming] at found
      have same := (Syscall.Does.getFlags reading).namespaces (by simp [Call.kind])
      have set := Syscall.setFlags_namespaces (Syscall.getFlags_bound bound reading) writing
      refine .of_ok found ?_
      rw [alike.kernel, set, field_name naming, Kernel.setFlags_of_namespaces same, wanted]
      simp [requested, Kernel.brought, found, differs]

theorem Asked.answered (asked : Asked device desired? before after found) :
    Answered device desired? before.thread.location before after found := by
  cases asked with
  | unmade errno making =>
      exact .of_error ((Syscall.Does.socket making).namespaces (by simp [Call.kind]))
  | made socket made used found closed making use closing =>
      rcases Syscall.socket_ran making with ⟨_, failed, -⟩ | ⟨_, object, rfl, ⟨⟩, makes⟩
      · cases failed
      have start := (Syscall.Does.socket making).namespaces (by simp [Call.kind])
      have finish := (Syscall.Does.close closing).namespaces (by simp [Call.kind])
      exact (use.answered makes.object?).transfer start finish

/-! ### Where the calls are made -/

theorem Used.within (use : Used device desired? socket before after found)
    (bound : before.kernel.object? socket = some (.socket before.thread.location)) :
    ∃ moments, Course Syscall.Does before moments after ∧
      ∀ moment ∈ moments, moment.Within before.thread.location (Bytes.ofString device.name) := by
  have isOpen := Kernel.opened_of_object? bound
  -- A request that is made while the thread and the socket are where they were.
  have placed {start : Machine} {field : NameField} {entry : Entry} {finish : Machine}
      (naming : device.field = .ok field) (quiet : before.Quiet start)
      (stays : entry.moves = false) (named : entry.call.addresses? = some (socket, field)) :
      Moment.Within ⟨start, entry, finish⟩ before.thread.location (Bytes.ofString device.name) := by
    refine ⟨stays, fun _ => by rw [quiet.thread], fun other given same => ?_⟩
    cases named.symm.trans same
    refine ⟨field_name naming, ?_⟩
    rw [quiet.object?, bound]
  cases use with
  | unnamed e naming same =>
      subst same
      exact ⟨[], .done (.refl _), by simp⟩
  | unread field errno naming reading =>
      refine ⟨_, .single (.getFlags reading), ?_⟩
      simpa using placed naming (.refl _) rfl rfl
  | read field flags read naming reading fits alike =>
      refine ⟨_, (Course.single (.getFlags reading)).then_pause (.of_alike alike), ?_⟩
      simpa using placed naming (.refl _) rfl rfl
  | unwritten field flags desired errno read naming reading wanted differs writing =>
      have quiet := Syscall.getFlags_quiet isOpen reading
      refine ⟨_, (Course.single (.getFlags reading)).append (.single (.setFlags writing)), ?_⟩
      simpa using ⟨placed naming (.refl _) rfl rfl, placed naming quiet rfl rfl⟩
  | written field flags desired read wrote naming reading wanted differs writing alike =>
      have quiet := Syscall.getFlags_quiet isOpen reading
      refine ⟨_, ((Course.single (.getFlags reading)).append (.single (.setFlags writing))).then_pause
        (.of_alike alike), ?_⟩
      simpa using ⟨placed naming (.refl _) rfl rfl, placed naming quiet rfl rfl⟩

theorem Asked.within (asked : Asked device desired? before after found) :
    ∃ moments, Course Syscall.Does before moments after ∧
      ∀ moment ∈ moments, moment.Within before.thread.location (Bytes.ofString device.name) := by
  cases asked with
  | unmade errno making =>
      refine ⟨_, .single (.socket making), ?_⟩
      simpa using ⟨rfl, fun _ => rfl, by simp [Call.addresses?]⟩
  | made socket made used found closed making use closing =>
      rcases Syscall.socket_ran making with ⟨_, failed, -⟩ | ⟨_, object, rfl, ⟨⟩, makes⟩
      · cases failed
      have bound := makes.object?
      rw [← makes.works.thread] at bound
      obtain ⟨moments, course, within⟩ := use.within bound
      rw [makes.works.thread] at within
      refine ⟨_, (Course.single (.socket making)).append (course.append (.single (.close closing))),
        fun moment member => ?_⟩
      rcases List.mem_append.mp member with first | later
      · rw [List.mem_singleton.mp first]
        exact ⟨rfl, fun _ => rfl, by simp [Call.addresses?]⟩
      · rcases List.mem_append.mp later with inside | last
        · exact within moment inside
        · rw [List.mem_singleton.mp last]
          exact ⟨rfl, by simp [Entry.concernsDevice, Kernel.CallKind.concernsDevice, Call.kind],
            by simp [Call.addresses?]⟩

end Device

end NetSwitch
