import NetSwitch.Proofs.Calls

/-! The identities of namespaces, and the handles that carry them.

No operation gives a namespace another identity.  So a handle that was told the inode of its file
when it was opened has been told it once and for all.
-/

namespace NetSwitch

open Kernel (Descriptor Entry NamespaceFile Object)

namespace Kernel

variable {kernel before after : Kernel} {location : String}

/-- The namespaces by name, with their identities. -/
def identities (kernel : Kernel) : List (String × NamespaceId) :=
  kernel.namespaces.map fun n => (n.name, n.id)

theorem identities_modifyDevices {change : List Device → List Device} :
    (kernel.modifyDevices location change).identities = kernel.identities := by
  simp only [identities, modifyDevices, List.map_map]
  refine List.map_congr_left fun n _ => ?_
  simp only [Function.comp]
  split <;> rfl

theorem inode_network {name : String} : kernel.inode (.network name) =
    ((kernel.identities.find? fun entry => entry.1 = name).map (·.2.inode)).getD 0 := by
  simp only [inode, namespace?, identities, List.find?_map, Option.map_map]
  rfl

theorem inode_of_identities (same : after.identities = before.identities) :
    after.inode = before.inode := by
  funext target
  cases target with
  | network name => rw [inode_network, same, inode_network]
  | foreign inode => rfl

end Kernel

/-! ### No call gives a namespace another identity -/

namespace Syscall

variable {before after : Machine} {entry : Entry} {descriptor : Descriptor}

theorem setFlags_identities {field : Kernel.NameField} {flags : UInt16} {answer : Except Errno Unit}
    (ran : setFlags descriptor field flags before = (answer, after)) :
    after.kernel.identities = before.kernel.identities := by
  rcases request_ran ran with ⟨errno, -, rfl⟩ | ⟨served, ranServe, rfl⟩
  · rfl
  · change served.kernel.identities =
      (before.met (Kernel.Call.setFlags descriptor field flags).kind).kernel.identities
    simp only [Op.kernel_bind] at ranServe
    generalize before.met (Kernel.Call.setFlags descriptor field flags).kind = met at ranServe ⊢
    rcases found : met.kernel.object? descriptor with _ | _ | _ | bound <;>
      simp only [found] at ranServe
    case some.socket =>
      split at ranServe
      · cases ranServe
        rfl
      · simp only [Op.thread_bind] at ranServe
        split at ranServe
        · cases ranServe
          exact Kernel.identities_modifyDevices
        · cases ranServe
          rfl
    all_goals
      cases ranServe
      rfl

theorem Does.identities (does : Does entry before after) :
    after.kernel.identities = before.kernel.identities := by
  by_cases kind : entry.call.kind = .setFlags
  · cases does with
    | setFlags ran => exact setFlags_identities ran
    | _ => cases kind
  · exact congrArg (List.map fun n => (n.name, n.id)) (does.namespaces kind)

end Syscall

theorem Course.inode {before after : Machine} {moments : List (Moment Entry)}
    (course : Course Syscall.Does before moments after) :
    after.kernel.inode = before.kernel.inode := by
  refine Kernel.inode_of_identities ?_
  refine course.keeps (fun machine => machine.kernel.identities = before.kernel.identities) ?_ ?_ rfl
  · intro start finish pauses same
    rw [pauses.kernel, same]
  · intro moment _ ran same
    rw [ran.identities, same]

theorem Op.Calls.inode {op : Op α} {allowed : Entry → Prop} {answer : α} {before after : Machine}
    (calls : op.Calls allowed) (ran : op before = (answer, after)) :
    after.kernel.inode = before.kernel.inode := by
  obtain ⟨moments, course, -⟩ := calls _ _ _ ran
  exact course.inode

/-! ### Handles -/

theorem Syscall.fstat_ok {descriptor : Descriptor} {file : NamespaceFile} {inode : UInt64}
    {before after : Machine} (found : before.kernel.object? descriptor = some (.namespaceFile file))
    (ran : fstat descriptor before = (.ok inode, after)) : inode = before.kernel.inode file.target := by
  rcases request_ran ran with ⟨errno, failed, -⟩ | ⟨served, ranServe, -⟩
  · cases failed
  · have same : (before.met (Kernel.Call.fstat descriptor).kind).kernel.object? descriptor =
        some (.namespaceFile file) := found
    simp only [Op.kernel_bind, same] at ranServe
    cases ranServe
    rfl

namespace Handle

variable {handle copy : Handle} {path : Path} {descriptor : Descriptor}
variable {before middle after : Machine}

theorem duplicate_calls (handle : Handle) : handle.duplicate.Calls Entry.Aside := by
  unfold duplicate
  cases handle.descriptor with
  | error e => exact Op.calls_pure _
  | ok descriptor =>
      refine Op.calls_bind (Op.calls_of_does Syscall.Does.dup fun _ _ => ⟨rfl, rfl⟩) fun found => ?_
      rcases found with errno | copy <;> exact Op.calls_pure _

/-- While a handle is open, its descriptor refers to a namespace file with the handle's identity
for an inode. -/
def Genuine (handle : Handle) (kernel : Kernel) : Prop :=
  ∀ descriptor ∈ handle.descriptor?, ∃ file, kernel.object? descriptor = some (.namespaceFile file) ∧
    handle.id.inode = kernel.inode file.target

theorem genuine_of_closed {kernel : Kernel} (closed : handle.descriptor? = none) :
    handle.Genuine kernel := by
  intro descriptor owned
  rw [closed] at owned
  cases owned

/-- A handle stays genuine for as long as its descriptor is open. -/
theorem Genuine.mono {kernel later : Kernel} (genuine : handle.Genuine kernel)
    (extension : kernel.Extends later) (inodes : later.inode = kernel.inode)
    (backed : handle.Backed later) : handle.Genuine later := by
  intro descriptor owned
  obtain ⟨file, found, identity⟩ := genuine descriptor owned
  refine ⟨file, ?_, by rw [inodes, identity]⟩
  rw [extension.object?_of_opened (Kernel.opened_of_object? found) (backed descriptor owned), found]

theorem Genuine.backed {kernel : Kernel} (genuine : handle.Genuine kernel) : handle.Backed kernel := by
  intro descriptor owned
  obtain ⟨file, found, -⟩ := genuine descriptor owned
  exact Kernel.opened_of_object? found

/-- A handle that was genuine in a kernel that has gone on to another. -/
def Traced (handle : Handle) (kernel : Kernel) : Prop :=
  ∃ origin : Kernel, handle.Genuine origin ∧ origin.Extends kernel ∧ kernel.inode = origin.inode

theorem Genuine.traced {kernel : Kernel} (genuine : handle.Genuine kernel) : handle.Traced kernel :=
  ⟨kernel, genuine, .refl kernel, rfl⟩

theorem Traced.mono {kernel later : Kernel} (traced : handle.Traced kernel)
    (extension : kernel.Extends later) (inodes : later.inode = kernel.inode) : handle.Traced later := by
  obtain ⟨origin, genuine, grown, same⟩ := traced
  exact ⟨origin, genuine, grown.trans extension, inodes.trans same⟩

theorem Traced.genuine {kernel : Kernel} (traced : handle.Traced kernel) (backed : handle.Backed kernel) :
    handle.Genuine kernel := by
  obtain ⟨origin, genuine, extension, inodes⟩ := traced
  exact genuine.mono extension inodes backed

theorem identify_ok {id : NamespaceId} {file : NamespaceFile}
    (found : before.kernel.object? descriptor = some (.namespaceFile file))
    (ran : identify path descriptor before = (.ok id, after)) :
    id.inode = before.kernel.inode file.target := by
  obtain ⟨network, middle, ranNetwork, ranRest⟩ := Op.bind_ran.mp ran
  have quiet := (isNetwork_quiet (Kernel.opened_of_object? found) ranNetwork).1
  rcases network with errno | _ | _
  · cases ranRest
  · cases ranRest
  · obtain ⟨inode, last, ranStat, ranRest⟩ := Op.bind_ran.mp ranRest
    rcases inode with errno | inode
    · cases ranRest
    · cases ranRest
      rw [← (isNetwork_calls descriptor).inode ranNetwork]
      exact Syscall.fstat_ok (quiet.object?.trans found) ranStat

/-- A handle that is opened has the inode of the file that was found for an identity, and a
descriptor of its own for that file. -/
theorem openPath_obtains (ran : openPath path before = (.ok handle, after)) :
    ∃ descriptor file,
      before.kernel.node? before.thread.location path = some (.namespaceFile file) ∧
      handle.descriptor? = some descriptor ∧ handle.path = path ∧
      handle.id.inode = before.kernel.inode file.target ∧
      before.Makes after descriptor (.namespaceFile file) := by
  rcases openPath_ran ran with ⟨e, failed, -⟩ | ⟨_, descriptor, file, node, ⟨⟩, owns, named, makes⟩
  · cases failed
  · refine ⟨descriptor, file, node, owns, named, ?_, makes⟩
    unfold openPath at ran
    split at ran
    · cases ran
    · obtain ⟨opened, middle, ranOpen, ranRest⟩ := Op.bind_ran.mp ran
      rcases Syscall.openFile_ran ranOpen with ⟨errno, rfl, -⟩ | ⟨made, object, -, rfl, making⟩
      · cases ranRest
      obtain ⟨identified, known, ranIdentify, ranRest⟩ := Op.bind_ran.mp ranRest
      rcases identified with e | id
      · obtain ⟨closed, last, -, ranRest⟩ := Op.bind_ran.mp ranRest
        cases ranRest
      · obtain ⟨quiet, network⟩ := identify_quiet making.mem_opened ranIdentify
        obtain ⟨target, found⟩ := network id rfl
        obtain ⟨⟨⟩, last, ranEmit, ranRest⟩ := Op.bind_ran.mp ranRest
        cases ranRest
        obtain rfl : made = descriptor := Option.some.inj owns
        have same : Object.namespaceFile target = .namespaceFile file := by
          have here : after.kernel.object? made = known.kernel.object? made :=
            (Op.emit_ran ranEmit).object?
          rw [quiet.object?, found, makes.object?] at here
          exact Option.some.inj here.symm
        cases same
        have unchanged := (Syscall.openFile_calls path).inode ranOpen
        rw [← unchanged]
        exact identify_ok found ranIdentify

theorem openPath_genuine (ran : openPath path before = (.ok handle, after)) :
    handle.Genuine after.kernel := by
  obtain ⟨descriptor, file, -, owns, -, identity, makes⟩ := openPath_obtains ran
  intro other owned
  cases owns.symm.trans owned
  exact ⟨file, makes.object?, by rw [(openPath_calls path).inode ran, identity]⟩

/-- A second handle has the identity and the path of the first, and a descriptor of its own for the
same file. -/
theorem duplicate_obtains (genuine : handle.Genuine before.kernel)
    (ran : handle.duplicate before = (.ok copy, after)) :
    ∃ descriptor own file, handle.descriptor? = some descriptor ∧
      before.kernel.object? descriptor = some (.namespaceFile file) ∧
      copy.descriptor? = some own ∧ copy.path = handle.path ∧ copy.id = handle.id ∧
      copy.id.inode = before.kernel.inode file.target ∧
      before.Makes after own (.namespaceFile file) := by
  rcases duplicate_ran genuine.backed ran with
    ⟨e, failed, -⟩ | ⟨descriptor, own, object, owned, found, ⟨⟩, makes⟩
  · cases failed
  · obtain ⟨file, same, identity⟩ := genuine descriptor owned
    cases found.symm.trans same
    exact ⟨descriptor, own, file, owned, found, rfl, rfl, rfl, identity, makes⟩

theorem duplicate_genuine (genuine : handle.Genuine before.kernel)
    (ran : handle.duplicate before = (.ok copy, after)) : copy.Genuine after.kernel := by
  obtain ⟨-, own, file, -, -, owns, -, -, identity, makes⟩ := duplicate_obtains genuine ran
  intro other owned
  cases owns.symm.trans owned
  exact ⟨file, makes.object?, by rw [(duplicate_calls handle).inode ran, identity]⟩

end Handle

theorem ownIdentity_calls : ownIdentity.Calls Entry.Aside := by
  refine Op.calls_bind (Op.calls_of_does Syscall.Does.stat fun _ _ => ⟨rfl, rfl⟩) fun found => ?_
  rcases found with errno | inode <;> exact Op.calls_pure _

end NetSwitch
