import NetSwitch.Proofs.Device.Asked
import NetSwitch.Proofs.Switch.Course

/-! What succeeds when no fault is armed and the thread is privileged.

Then a call does what it is for, and the answers of the kernel are those that its state gives.
-/

namespace NetSwitch

open Kernel (Call CallKind Descriptor Entry Fault NamespaceFile Object)

/-- No fault is left that would make a call fail, and the thread may do as it likes. -/
structure Machine.Calm (machine : Machine) : Prop where
  spent : ∀ fault ∈ machine.kernel.faults, fault.times = 0
  privileged : machine.thread.privileged = true

namespace Kernel.Fault

variable {kind : CallKind} {faults : List Fault}

theorem awaits_of_spent {fault : Fault} (spent : fault.times = 0) : fault.awaits kind = false := by
  simp [awaits, spent]

theorem meet_of_unarmed (unarmed : ∀ fault ∈ faults, fault.awaits kind = false) :
    meet kind faults = (none, faults) := by
  induction faults with
  | nil => rfl
  | cons fault rest ih =>
      have idle := unarmed fault (by simp)
      have tail := ih fun other member => unarmed other (by simp [member])
      simp [meet, idle, tail, pass]

theorem meet_of_spent (spent : ∀ fault ∈ faults, fault.times = 0) : meet kind faults = (none, faults) :=
  meet_of_unarmed fun fault member => awaits_of_spent (spent fault member)

theorem patience_of_spent (spent : ∀ fault ∈ faults, fault.times = 0) : patience kind faults = 0 := by
  induction faults with
  | nil => rfl
  | cons fault rest ih =>
      have idle : fault.awaits kind = false := awaits_of_spent (spent fault (by simp))
      have tail := ih fun other member => spent other (by simp [member])
      simp [patience, idle, tail]

end Kernel.Fault

/-- No fault waits for calls of a kind. -/
def Kernel.Unarmed (kernel : Kernel) (kind : CallKind) : Prop :=
  ∀ fault ∈ kernel.faults, fault.awaits kind = false

instance (kernel : Kernel) (kind : CallKind) : Decidable (kernel.Unarmed kind) :=
  inferInstanceAs (Decidable (∀ fault ∈ kernel.faults, fault.awaits kind = false))

section Keeping

variable {before after : Machine} {entry : Entry} {moments : List (Moment Entry)}

theorem Machine.Calm.met (calm : before.Calm) (kind : CallKind) : before.met kind = before := by
  simp only [Machine.met, Fault.meet_of_spent calm.spent]

theorem Syscall.Does.calm (does : Syscall.Does entry before after) (calm : before.Calm) : after.Calm := by
  obtain ⟨served, tends, rfl⟩ := does.tends
  rw [calm.met] at tends
  obtain ⟨spent, privileged⟩ := calm
  rw [← tends.faults] at spent
  rw [← tends.privileged] at privileged
  exact ⟨spent, privileged⟩

theorem Machine.Pauses.calm (pauses : before.Pauses after) (calm : before.Calm) : after.Calm := by
  obtain ⟨spent, privileged⟩ := calm
  rw [← pauses.kernel] at spent
  rw [← pauses.privileged] at privileged
  exact ⟨spent, privileged⟩

theorem Course.calm (course : Course Syscall.Does before moments after) (calm : before.Calm) :
    after.Calm :=
  course.keeps Machine.Calm (fun pauses => pauses.calm) (fun _ _ does => does.calm) calm

theorem Op.Calls.calm {op : Op α} {allowed : Entry → Prop} {answer : α} (calls : op.Calls allowed)
    (ran : op before = (answer, after)) (calm : before.Calm) : after.Calm := by
  obtain ⟨moments, course, -⟩ := calls _ _ _ ran
  exact course.calm calm

end Keeping

/-! ### Calls -/

namespace Syscall

variable {before after : Machine} {descriptor : Descriptor} {file : NamespaceFile}

theorem request_of_unarmed {call : Call} {report : α → Kernel.Report} {serve : Op (Except Errno α)}
    (unarmed : before.kernel.Unarmed call.kind) :
    request call report serve before =
      ((serve before).1, (serve before).2.noted ⟨call, noteOf report (serve before).1⟩) := by
  have meets : Fault.meet call.kind before.kernel.faults = (none, before.kernel.faults) :=
    Fault.meet_of_unarmed unarmed
  simp only [request, meetFaults, record, Op.bind_apply, Op.kernel_apply, Op.modifyKernel_apply,
    Op.pure_apply, meets]
  rfl

theorem spawn_of_unarmed (unarmed : before.kernel.Unarmed .spawn) :
    spawn before = (.ok (), before.noted ⟨.spawn, .ok⟩) :=
  have asked : before.kernel.Unarmed (Call.kind .spawn) := unarmed
  request_of_unarmed asked

/-- The copy has the next number. -/
theorem dup_of_unarmed {object : Object} (unarmed : before.kernel.Unarmed .dup)
    (found : before.kernel.object? descriptor = some object) :
    dup descriptor before =
      (.ok ⟨before.kernel.made + 1⟩,
        Machine.noted { before with kernel := (before.kernel.allocate object).2 }
          ⟨.dup descriptor, .made ⟨before.kernel.made + 1⟩⟩) := by
  have asked : before.kernel.Unarmed (Call.dup descriptor).kind := unarmed
  rw [dup, request_of_unarmed asked, Op.kernel_bind, found]
  rfl

theorem request_served {call : Call} {report : α → Kernel.Report} {serve : Op (Except Errno α)}
    {answer : Except Errno α} (calm : before.Calm)
    (ran : request call report serve before = (answer, after)) :
    ∃ served, serve before = (answer, served) ∧ after = served.noted ⟨call, noteOf report answer⟩ := by
  rw [request_of_unarmed fun fault member => Fault.awaits_of_spent (calm.spent fault member)] at ran
  cases ran
  exact ⟨_, rfl, rfl⟩

theorem fstatfs_served {answer : Except Errno Bool} (calm : before.Calm)
    (found : before.kernel.object? descriptor = some (.namespaceFile file))
    (ran : fstatfs descriptor before = (answer, after)) : answer = .ok true := by
  obtain ⟨served, ranServe, -⟩ := request_served calm ran
  simp only [Op.kernel_bind, found] at ranServe
  cases ranServe
  rfl

theorem nstype_served {answer : Except Errno Int} (calm : before.Calm)
    (found : before.kernel.object? descriptor = some (.namespaceFile file))
    (ran : nstype descriptor before = (answer, after)) :
    answer = match file.typeError with
      | some errno => .error errno
      | none => .ok file.type := by
  obtain ⟨served, ranServe, -⟩ := request_served calm ran
  obtain ⟨target, type, typeError⟩ := file
  simp only [Op.kernel_bind, found] at ranServe
  cases typeError <;> cases ranServe <;> rfl

theorem fstat_served {answer : Except Errno UInt64} (calm : before.Calm)
    (found : before.kernel.object? descriptor = some (.namespaceFile file))
    (ran : fstat descriptor before = (answer, after)) : ∃ inode, answer = .ok inode := by
  obtain ⟨served, ranServe, -⟩ := request_served calm ran
  simp only [Op.kernel_bind, found] at ranServe
  cases ranServe
  exact ⟨_, rfl⟩

theorem openFile_served {path : Path} {answer : Except Errno Descriptor} (calm : before.Calm)
    (found : before.kernel.node? before.thread.location path = some (.namespaceFile file))
    (ran : openFile path before = (answer, after)) :
    ∃ descriptor, answer = .ok descriptor ∧ before.Makes after descriptor (.namespaceFile file) := by
  have opened : ∃ descriptor, answer = .ok descriptor ∧
      after.kernel.descriptors = before.kernel.descriptors ++ [(descriptor, .namespaceFile file)] := by
    have once := ran
    simp only [openFile, Op.kernel_bind, Fault.patience_of_spent calm.spent] at once
    obtain ⟨served, ranServe, rfl⟩ := request_served calm once
    simp only [Op.kernel_bind, Op.thread_bind, found] at ranServe
    cases ranServe
    exact ⟨_, rfl, rfl⟩
  obtain ⟨descriptor, rfl, descriptors⟩ := opened
  rcases openFile_ran ran with ⟨errno, failed, -⟩ | ⟨_, object, -, ⟨⟩, makes⟩
  · cases failed
  · have same := descriptors.symm.trans makes.works.descriptors
    obtain rfl : .namespaceFile file = object := by simpa using same
    exact ⟨descriptor, rfl, makes⟩

theorem setns_served {answer : Except Errno Unit} {name : String} (calm : before.Calm)
    (leads : before.kernel.network? descriptor = some name)
    (ran : setns descriptor before = (answer, after)) : answer = .ok () := by
  simp only [setns, Op.kernel_bind] at ran
  obtain ⟨served, ranServe, -⟩ := request_served calm ran
  simp only [leads, Op.thread_bind, calm.privileged] at ranServe
  cases ranServe
  rfl

theorem socket_served {answer : Except Errno Descriptor} (calm : before.Calm)
    (ran : socket before = (answer, after)) : ∃ descriptor, answer = .ok descriptor := by
  obtain ⟨served, ranServe, -⟩ := request_served calm ran
  cases ranServe
  exact ⟨_, rfl⟩

theorem getFlags_served {answer : Except Errno UInt16} {field : Kernel.NameField} {bound : String}
    {flags : UInt16} (calm : before.Calm) (made : before.kernel.object? descriptor = some (.socket bound))
    (found : before.kernel.flags? bound field.name = some flags)
    (ran : getFlags descriptor field before = (answer, after)) : answer = .ok flags := by
  obtain ⟨served, ranServe, -⟩ := request_served calm ran
  simp only [Op.kernel_bind, made, found] at ranServe
  cases ranServe
  rfl

theorem setFlags_served {answer : Except Errno Unit} {field : Kernel.NameField} {bound : String}
    {flags written : UInt16} (calm : before.Calm)
    (made : before.kernel.object? descriptor = some (.socket bound))
    (found : before.kernel.flags? bound field.name = some flags)
    (ran : setFlags descriptor field written before = (answer, after)) : answer = .ok () := by
  obtain ⟨served, ranServe, -⟩ := request_served calm ran
  simp only [Op.kernel_bind, made, found] at ranServe
  rw [if_neg (by simp), Op.thread_bind, if_pos calm.privileged] at ranServe
  cases ranServe
  rfl

theorem close_of_unarmed {answer : Except Errno Unit} {object : Object}
    (unarmed : before.kernel.Unarmed .close) (isOpen : before.kernel.object? descriptor = some object)
    (ran : close descriptor before = (answer, after)) : answer = .ok () := by
  simp only [close, Op.kernel_bind, Op.modifyKernel_bind, isOpen] at ran
  have released : (before.kernel.release descriptor).Unarmed .close := unarmed
  rw [request_of_unarmed released] at ran
  cases ran
  rfl

theorem close_served {answer : Except Errno Unit} {object : Object} (calm : before.Calm)
    (isOpen : before.kernel.object? descriptor = some object)
    (ran : close descriptor before = (answer, after)) : answer = .ok () :=
  close_of_unarmed (fun fault member => Fault.awaits_of_spent (calm.spent fault member)) isOpen ran

end Syscall

/-! ### Handles -/

/-- Whether a namespace file is taken for one of a network namespace. -/
def Kernel.NamespaceFile.isNetwork (file : NamespaceFile) : Bool :=
  match file.typeError with
  | none => file.type = networkType
  | some errno => errno = .notATerminal

namespace Handle

variable {before after : Machine} {descriptor : Descriptor} {file : NamespaceFile} {path : Path}

theorem isNetwork_served {answer : Except Errno Bool} (calm : before.Calm)
    (found : before.kernel.object? descriptor = some (.namespaceFile file))
    (ran : isNetwork descriptor before = (answer, after)) :
    answer = .ok true ↔ file.isNetwork = true := by
  obtain ⟨told, middle, ranStat, ranRest⟩ := Op.bind_ran.mp ran
  obtain rfl := Syscall.fstatfs_served calm found ranStat
  obtain ⟨type, last, ranType, ranRest⟩ := Op.bind_ran.mp ranRest
  have quiet := Syscall.fstatfs_quiet (Kernel.opened_of_object? found) ranStat
  have still : middle.kernel.object? descriptor = some (.namespaceFile file) := by
    rw [quiet.object?, found]
  obtain rfl := Syscall.nstype_served ((Syscall.Does.fstatfs ranStat).calm calm) still ranType
  obtain ⟨target, type, typeError⟩ := file
  rcases typeError with _ | errno
  · dsimp only at ranRest
    split at ranRest
    · rename_i negative
      cases ranRest
      simp [NamespaceFile.isNetwork, negative, Kernel.networkType]
    · cases ranRest
      simp [NamespaceFile.isNetwork]
  · dsimp only at ranRest
    split at ranRest
    · rename_i terminal
      cases ranRest
      simp [NamespaceFile.isNetwork, terminal]
    · rename_i other
      cases ranRest
      simp [NamespaceFile.isNetwork, other]

/-- A file that has just been opened becomes a handle exactly if it is one of a network namespace. -/
theorem adopt_served {answer : Except Error Handle} (calm : before.Calm)
    (found : before.kernel.object? descriptor = some (.namespaceFile file))
    (ran : adopt path descriptor before = (answer, after)) :
    (∃ handle, answer = .ok handle) ↔ file.isNetwork = true := by
  obtain ⟨identified, known, ranIdentify, ranRest⟩ := Op.bind_ran.mp ran
  have answered : (∃ handle, answer = .ok handle) ↔ ∃ id, identified = .ok id := by
    rcases identified with e | id
    · obtain ⟨closed, last, -, ranRest⟩ := Op.bind_ran.mp ranRest
      cases ranRest
      simp
    · obtain ⟨⟨⟩, last, -, ranRest⟩ := Op.bind_ran.mp ranRest
      cases ranRest
      simp
  rw [answered]
  obtain ⟨told, asked, ranNetwork, ranRest⟩ := Op.bind_ran.mp ranIdentify
  rw [← isNetwork_served calm found ranNetwork]
  rcases told with errno | _ | _
  · cases ranRest
    simp
  · cases ranRest
    simp
  · obtain ⟨inode, last, ranStat, ranRest⟩ := Op.bind_ran.mp ranRest
    have quiet := (isNetwork_quiet (Kernel.opened_of_object? found) ranNetwork).1
    have still : asked.kernel.object? descriptor = some (.namespaceFile file) := by
      rw [quiet.object?, found]
    obtain ⟨inode, rfl⟩ :=
      Syscall.fstat_served ((isNetwork_calls descriptor).calm ranNetwork calm) still ranStat
    cases ranRest
    simp

end Handle

/-- Whether a thread in a namespace can open a network namespace at a path. -/
def Kernel.isNetworkAt (kernel : Kernel) (location : String) (path : Path) : Bool :=
  match kernel.node? location path with
  | some (.namespaceFile file) => !path.contains 0 && file.isNetwork
  | _ => false

theorem Handle.openPath_served {before after : Machine} {path : Path} {answer : Except Error Handle}
    (calm : before.Calm) (ran : Handle.openPath path before = (answer, after)) :
    (∃ handle, answer = .ok handle) ↔
      before.kernel.isNetworkAt before.thread.location path = true := by
  by_cases isFile : ∃ file, before.kernel.node? before.thread.location path = some (.namespaceFile file)
  · obtain ⟨file, found⟩ := isFile
    simp only [Kernel.isNetworkAt, found]
    unfold openPath at ran
    split at ran
    · rename_i holed
      have zero : 0 ∈ path := by simpa using holed
      cases ran
      simp [zero]
    · rename_i whole
      have proper : 0 ∉ path := by simpa using whole
      obtain ⟨opened, middle, ranOpen, ranRest⟩ := Op.bind_ran.mp ran
      obtain ⟨descriptor, rfl, makes⟩ := Syscall.openFile_served calm found ranOpen
      have calls : (Syscall.openFile path).Calls Entry.Aside :=
        Op.calls_bind Op.calls_kernel fun _ => Syscall.openAgain_calls path _
      rw [adopt_served (calls.calm ranOpen calm) makes.object? ranRest]
      simp [proper]
  · refine iff_of_false ?_ ?_
    · rintro ⟨handle, rfl⟩
      rcases openPath_ran ran with ⟨_, failed, -⟩ | ⟨_, _, file, found, -⟩
      · cases failed
      · exact isFile ⟨file, found⟩
    · unfold Kernel.isNetworkAt
      split
      · rename_i file found
        exact absurd ⟨file, found⟩ isFile
      · simp

theorem Handle.close_served {handle : Handle} {before after : Machine} {descriptor : Descriptor}
    {answer : Except Error Unit} (calm : before.Calm) (owns : handle.descriptor? = some descriptor)
    (isOpen : descriptor ∈ before.kernel.opened) (ran : handle.close before = (answer, after)) :
    answer = .ok () := by
  obtain ⟨object, found⟩ := Option.isSome_iff_exists.mp (Kernel.object?_isSome.mpr isOpen)
  rcases Handle.close_ran ran with ⟨closed, -, -⟩ | ⟨_, closed, middle, owned, closing, -, rfl⟩
  · cases owns.symm.trans closed
  · cases owns.symm.trans owned
    rw [Syscall.close_served calm found closing]
    rfl

/-! ### Devices -/

namespace Device

variable {device : Device} {desired? : Option LinkState} {socket : Descriptor} {flags : UInt16}
variable {before after : Machine} {location : String} {found : Except Error UInt16}

theorem Used.served (use : Used device desired? socket before after found) (calm : before.Calm)
    (named : ∃ field, device.field = .ok field)
    (bound : before.kernel.object? socket = some (.socket location))
    (present : before.kernel.flags? location (Bytes.ofString device.name) = some flags) :
    found = .ok flags := by
  have reads {field : Kernel.NameField} {answer : Except Errno UInt16} {read : Machine}
      (naming : device.field = .ok field)
      (reading : Syscall.getFlags socket field before = (answer, read)) : answer = .ok flags :=
    Syscall.getFlags_served calm bound (by rw [field_name naming, present]) reading
  cases use with
  | unnamed e naming same =>
      obtain ⟨field, named⟩ := named
      cases naming.symm.trans named
  | unread field errno naming reading => cases reads naming reading
  | read field flags read naming reading fits alike =>
      cases reads naming reading
      rfl
  | unwritten field flags desired errno read naming reading wanted differs writing =>
      have does := Syscall.Does.getFlags reading
      rw [← field_name naming,
        ← Kernel.flags?_of_namespaces (does.namespaces (by simp [Call.kind]))] at present
      cases Syscall.setFlags_served (does.calm calm) (Syscall.getFlags_bound bound reading) present writing
  | written field flags desired read wrote naming reading wanted differs writing alike =>
      cases reads naming reading
      rfl

theorem Asked.served (asked : Asked device desired? before after found) (calm : before.Calm)
    (named : ∃ field, device.field = .ok field)
    (present : before.kernel.flags? before.thread.location (Bytes.ofString device.name) = some flags) :
    found = .ok flags := by
  cases asked with
  | unmade errno making =>
      obtain ⟨socket, made⟩ := Syscall.socket_served calm making
      cases made
  | made socket made used found closed making use closing =>
      rcases Syscall.socket_ran making with ⟨_, failed, -⟩ | ⟨_, object, rfl, ⟨⟩, makes⟩
      · cases failed
      have does := Syscall.Does.socket making
      rw [← Kernel.flags?_of_namespaces (does.namespaces (by simp [Call.kind]))] at present
      exact use.served (does.calm calm) named makes.object? present

end Device

/-! ### Switches -/

namespace Switch

variable {destination home : Handle} {before after : Machine} {own target : Descriptor} {name : String}

theorem enter_served {answer : Except Error Handle} (calm : before.Calm)
    (idle : before.thread.state = .idle) (aims : destination.descriptor? = some target)
    (leads : before.kernel.network? target = some name)
    (finds : before.kernel.isNetworkAt before.thread.location Path.threadSelf = true)
    (ran : enter destination before = (answer, after)) : ∃ home, answer = .ok home := by
  rcases answer with e | home
  · cases enter_error ran with
    | reentrant state same => cases idle.symm.trans state
    | tainted state same => cases idle.symm.trans state
    | closed _ closed same => cases aims.symm.trans closed
    | lost _ goal _ aimed looking =>
        obtain ⟨home, made⟩ := (Handle.openPath_served calm looking).mpr finds
        cases made
    | barred goal home looked moved noted errno event _ aimed looking moving noting closing =>
        cases aims.symm.trans aimed
        rcases Handle.openPath_ran looking with ⟨_, failed, -⟩ | ⟨_, _, _, -, ⟨⟩, -, -, makes⟩
        · cases failed
        have earlier := Kernel.opened_of_network? leads
        have still : looked.kernel.network? target = some name := by
          rw [makes.works.kernel.network?_of_opened earlier, leads]
          rw [makes.opened]
          exact List.mem_append_left _ earlier
        cases Syscall.setns_served ((Handle.openPath_calls _).calm looking calm) still moving
  · exact ⟨home, rfl⟩

theorem restore_served {restored : Except Error Unit} (calm : before.Calm)
    (owns : home.descriptor? = some own) (leads : before.kernel.network? own = some name)
    (ran : restore home before = (restored, after)) :
    restored = .ok () ∧ after.thread = { before.thread with location := name, state := .idle } := by
  obtain ⟨report, moved, noted, moving, -, -, rfl⟩ := restore_steps owns ran
  obtain rfl := Syscall.setns_served calm leads moving
  cases restore_returns owns ran with
  | back location origin thread moved =>
      cases leads.symm.trans origin
      exact ⟨rfl, thread⟩

end Switch

end NetSwitch
