import NetSwitch.Proofs.Syscall
import NetSwitch.Handle

/-! What operations on handles change: a handle that is made owns one new descriptor, a
handle that is closed or dropped gives up its own, and nothing else becomes of the
descriptors. -/

namespace NetSwitch

open Kernel (Descriptor Object)

/-- Whoever opens its own namespace file finds the namespace that it is in. -/
def Kernel.ResolvesOwn (kernel : Kernel) : Prop :=
  ∀ location file, kernel.node? location Path.threadSelf = some (.namespaceFile file) →
    file.target = .network location

theorem Kernel.ResolvesOwn.of_files {before after : Kernel} (resolves : before.ResolvesOwn)
    (files : after.files = before.files) : after.ResolvesOwn := by
  intro location file found
  refine resolves location file ?_
  rwa [Kernel.node?, files, ← Kernel.node?] at found

theorem Kernel.ResolvesOwn.of_absent {kernel : Kernel}
    (absent : kernel.files.lookup Path.threadSelf = none) : kernel.ResolvesOwn := by
  intro location file found
  rw [Kernel.node?, absent, Option.none_or, if_pos rfl] at found
  cases found
  rfl

namespace Handle

variable {handle : Handle} {path : Path} {descriptor : Descriptor} {before middle after : Machine}

/-- The descriptor that a handle owns, if it has not been closed, is open. -/
def Backed (handle : Handle) (kernel : Kernel) : Prop :=
  ∀ descriptor ∈ handle.descriptor?, descriptor ∈ kernel.opened

theorem backed_of_mem {kernel : Kernel} (owned : handle.descriptor? = some descriptor)
    (isOpen : descriptor ∈ kernel.opened) : handle.Backed kernel := by
  intro other named
  cases owned.symm.trans named
  exact isOpen

theorem Backed.of_quiet (backed : handle.Backed before.kernel) (quiet : before.Quiet after) :
    handle.Backed after.kernel := by
  intro descriptor owned
  rw [quiet.opened]
  exact backed descriptor owned

theorem isNetwork_quiet {answer : Except Errno Bool} (isOpen : descriptor ∈ before.kernel.opened)
    (ran : isNetwork descriptor before = (answer, after)) :
    before.Quiet after ∧ (answer = .ok true →
      ∃ file, before.kernel.object? descriptor = some (.namespaceFile file)) := by
  obtain ⟨found, middle, ranStat, ranRest⟩ := Op.bind_ran.mp ran
  have quiet := Syscall.fstatfs_quiet isOpen ranStat
  rcases found with errno | _ | _
  · cases ranRest
    exact ⟨quiet, by simp⟩
  · cases ranRest
    exact ⟨quiet, by simp⟩
  · have file := Syscall.namespaceFile_of_fstatfs ranStat
    obtain ⟨type, last, ranType, ranRest⟩ := Op.bind_ran.mp ranRest
    have quietRest := Syscall.nstype_quiet (quiet.opened ▸ isOpen) ranType
    refine ⟨?_, fun _ => file⟩
    rcases type with errno | type <;> dsimp only at ranRest <;> split at ranRest <;> cases ranRest <;>
      exact quiet.trans quietRest

theorem identify_quiet {answer : Except Error NamespaceId} (isOpen : descriptor ∈ before.kernel.opened)
    (ran : identify path descriptor before = (answer, after)) :
    before.Quiet after ∧ (∀ id, answer = .ok id →
      ∃ file, before.kernel.object? descriptor = some (.namespaceFile file)) := by
  obtain ⟨found, middle, ranNetwork, ranRest⟩ := Op.bind_ran.mp ran
  obtain ⟨quiet, file⟩ := isNetwork_quiet isOpen ranNetwork
  rcases found with errno | _ | _
  · cases ranRest
    exact ⟨quiet, by simp⟩
  · cases ranRest
    exact ⟨quiet, by simp⟩
  · obtain ⟨inode, last, ranStat, ranRest⟩ := Op.bind_ran.mp ranRest
    have quietRest := Syscall.fstat_quiet (quiet.opened ▸ isOpen) ranStat
    rcases inode with errno | inode <;> cases ranRest <;>
      exact ⟨quiet.trans quietRest, fun _ _ => file rfl⟩

theorem identify_not_restore {e : Error} (ran : identify path descriptor before = (.error e, after)) :
    e.isRestoreFailure = false := by
  obtain ⟨found, middle, -, ranRest⟩ := Op.bind_ran.mp ran
  rcases found with errno | _ | _
  · cases ranRest
    rfl
  · cases ranRest
    rfl
  · obtain ⟨inode, last, -, ranRest⟩ := Op.bind_ran.mp ranRest
    rcases inode with errno | inode <;> cases ranRest
    rfl

/-- A file that has just been opened becomes a handle, or is closed again. -/
theorem adopt_ran {object : Object} {answer : Except Error Handle}
    (makes : before.Makes middle descriptor object)
    (ran : adopt path descriptor middle = (answer, after)) :
    (∃ e, answer = .error e ∧ before.Quiet after) ∨
      ∃ handle file, object = .namespaceFile file ∧ answer = .ok handle ∧
        handle.descriptor? = some descriptor ∧ handle.path = path ∧
        before.Makes after descriptor object := by
  obtain ⟨found, next, ranIdentify, ranRest⟩ := Op.bind_ran.mp ran
  obtain ⟨quiet, network⟩ := identify_quiet makes.mem_opened ranIdentify
  have made := makes.trans_quiet quiet
  rcases found with e | id
  · obtain ⟨closed, last, ranClose, ranRest⟩ := Op.bind_ran.mp ranRest
    cases ranRest
    exact .inl ⟨e, rfl, made.trans_close (Syscall.close_works made.mem_opened ranClose)⟩
  · obtain ⟨⟨⟩, last, ranEmit, ranRest⟩ := Op.bind_ran.mp ranRest
    cases ranRest
    obtain ⟨file, isFile⟩ := network id rfl
    rw [makes.object?] at isFile
    exact .inr ⟨_, file, Option.some.inj isFile, rfl, rfl, rfl, made.trans_quiet (Op.emit_ran ranEmit)⟩

/-- Opening a path makes a handle of the namespace file found there, or nothing. -/
theorem openPath_ran {answer : Except Error Handle} (ran : openPath path before = (answer, after)) :
    (∃ e, answer = .error e ∧ before.Quiet after) ∨
      ∃ handle descriptor file,
        before.kernel.node? before.thread.location path = some (.namespaceFile file) ∧
        answer = .ok handle ∧ handle.descriptor? = some descriptor ∧ handle.path = path ∧
        before.Makes after descriptor (.namespaceFile file) := by
  unfold openPath at ran
  split at ran
  · cases ran
    exact .inl ⟨_, rfl, .refl _⟩
  · obtain ⟨found, middle, ranOpen, ranRest⟩ := Op.bind_ran.mp ran
    rcases Syscall.openFile_ran ranOpen with ⟨errno, rfl, quiet⟩ | ⟨descriptor, object, wanted, rfl, makes⟩
    · cases ranRest
      exact .inl ⟨_, rfl, quiet⟩
    · rcases adopt_ran makes ranRest with failed | ⟨handle, file, rfl, made, owns, named, makes⟩
      · exact .inl failed
      · exact .inr ⟨handle, descriptor, file, wanted file rfl, made, owns, named, makes⟩

theorem openPath_not_restore {e : Error} (ran : openPath path before = (.error e, after)) :
    e.isRestoreFailure = false := by
  unfold openPath at ran
  split at ran
  · cases ran
    rfl
  · obtain ⟨found, opened, -, ranRest⟩ := Op.bind_ran.mp ran
    rcases found with errno | descriptor
    · cases ranRest
      unfold openFailure
      repeat' split
      all_goals rfl
    · obtain ⟨identified, known, ranIdentify, ranRest⟩ := Op.bind_ran.mp ranRest
      rcases identified with _ | id
      · obtain ⟨closed, last, -, ranRest⟩ := Op.bind_ran.mp ranRest
        cases ranRest
        exact identify_not_restore ranIdentify
      · obtain ⟨⟨⟩, last, -, ranRest⟩ := Op.bind_ran.mp ranRest
        cases ranRest

/-- A handle of the thread's own namespace refers to the namespace that it is in. -/
theorem network?_of_made {file : Kernel.NamespaceFile} (resolves : before.kernel.ResolvesOwn)
    (found : before.kernel.node? before.thread.location Path.threadSelf = some (.namespaceFile file))
    (makes : before.Makes after descriptor (.namespaceFile file)) :
    after.kernel.network? descriptor = some before.thread.location := by
  obtain ⟨target, type, typeError⟩ := file
  obtain rfl : target = .network before.thread.location := resolves _ _ found
  rw [Kernel.network?, makes.object?]

/-- A second handle owns a descriptor of its own, for the same object. -/
theorem duplicate_ran {answer : Except Error Handle} (backed : handle.Backed before.kernel)
    (ran : handle.duplicate before = (answer, after)) :
    (∃ e, answer = .error e ∧ before.Quiet after) ∨
      ∃ descriptor copy object, handle.descriptor? = some descriptor ∧
        before.kernel.object? descriptor = some object ∧
        answer = .ok { handle with descriptor? := some copy } ∧
        before.Makes after copy object := by
  unfold duplicate Handle.descriptor at ran
  cases owned : handle.descriptor? with
  | none =>
      rw [owned] at ran
      cases ran
      exact .inl ⟨_, rfl, .refl _⟩
  | some descriptor =>
      rw [owned] at ran
      obtain ⟨found, middle, ranDup, ranRest⟩ := Op.bind_ran.mp ran
      rcases Syscall.dup_ran (backed descriptor owned) ranDup with
        ⟨errno, rfl, quiet⟩ | ⟨copy, object, same, rfl, makes⟩
      · cases ranRest
        exact .inl ⟨_, rfl, quiet⟩
      · cases ranRest
        exact .inr ⟨descriptor, copy, object, rfl, same, rfl, makes⟩

/-- The descriptors that are left when a handle has given up its own. -/
def without (handle : Handle) (descriptors : List (Descriptor × Object)) :
    List (Descriptor × Object) :=
  descriptors.filter fun entry => some entry.1 ≠ handle.descriptor?

theorem without_of_closed {descriptors : List (Descriptor × Object)}
    (closed : handle.descriptor? = none) : handle.without descriptors = descriptors := by
  simp [without, closed]

theorem without_of_open {descriptors : List (Descriptor × Object)}
    (owned : handle.descriptor? = some descriptor) :
    handle.without descriptors = descriptors.filter (·.1 ≠ descriptor) := by
  simp [without, owned]

theorem opened_without
    (left : after.kernel.descriptors = handle.without before.kernel.descriptors) :
    after.kernel.opened = before.kernel.opened.filter (handle.descriptor? ≠ some ·) := by
  simp only [Kernel.opened, left, without, List.filter_map, Function.comp_def, ne_comm]

/-- Closing a handle is closing its descriptor, and saying whether that failed. -/
theorem close_asked {answer : Except Error Unit} (owned : handle.descriptor? = some descriptor)
    (ran : handle.close before = (answer, after)) :
    ∃ closed middle, Syscall.close descriptor before = (closed, middle) ∧ middle.Alike after ∧
      answer = closed.mapError fun errno => failure handle.path errno.byName := by
  unfold close at ran
  rw [owned] at ran
  obtain ⟨closed, middle, ranClose, ranRest⟩ := Op.bind_ran.mp ran
  refine ⟨closed, middle, ranClose, ?_⟩
  rcases closed with errno | ⟨⟩
  · cases ranRest
    exact ⟨.refl _, rfl⟩
  · obtain ⟨⟨⟩, last, ranEmit, ranRest⟩ := Op.bind_ran.mp ranRest
    cases ranRest
    exact ⟨Op.emit_alike ranEmit, rfl⟩

/-- A handle that is open closes its descriptor, and says whether that failed. -/
theorem close_ran {answer : Except Error Unit} (ran : handle.close before = (answer, after)) :
    (handle.descriptor? = none ∧ answer = .ok () ∧ after = before) ∨
      ∃ descriptor closed middle, handle.descriptor? = some descriptor ∧
        Syscall.close descriptor before = (closed, middle) ∧ middle.Quiet after ∧
        answer = closed.mapError fun errno => failure handle.path errno.byName := by
  cases owned : handle.descriptor? with
  | none =>
      simp only [close, owned] at ran
      cases ran
      exact .inl ⟨rfl, rfl, rfl⟩
  | some descriptor =>
      obtain ⟨closed, middle, ranClose, alike, answered⟩ := close_asked owned ran
      exact .inr ⟨descriptor, closed, middle, rfl, ranClose, alike.quiet, answered⟩

/-- Dropping a handle is closing its descriptor. -/
theorem drop_asked (owned : handle.descriptor? = some descriptor)
    (ran : handle.drop before = ((), after)) :
    ∃ middle closed, before.Alike middle ∧ Syscall.close descriptor middle = (closed, after) := by
  unfold drop at ran
  rw [owned] at ran
  obtain ⟨⟨⟩, middle, ranEmit, ranRest⟩ := Op.bind_ran.mp ran
  obtain ⟨closed, last, ranClose, ranRest⟩ := Op.bind_ran.mp ranRest
  cases ranRest
  exact ⟨middle, closed, Op.emit_alike ranEmit, ranClose⟩

theorem drop_ran (ran : handle.drop before = ((), after)) :
    (handle.descriptor? = none ∧ after = before) ∨
      ∃ descriptor middle closed, handle.descriptor? = some descriptor ∧ before.Quiet middle ∧
        Syscall.close descriptor middle = (closed, after) := by
  cases owned : handle.descriptor? with
  | none =>
      simp only [drop, owned] at ran
      cases ran
      exact .inl ⟨rfl, rfl⟩
  | some descriptor =>
      obtain ⟨middle, closed, alike, ranClose⟩ := drop_asked owned ran
      exact .inr ⟨descriptor, middle, closed, rfl, alike.quiet, ranClose⟩

theorem close_works {answer : Except Error Unit} (backed : handle.Backed before.kernel)
    (ran : handle.close before = (answer, after)) :
    before.Works after (handle.without before.kernel.descriptors) := by
  rcases close_ran ran with ⟨closed, -, rfl⟩ | ⟨descriptor, closed, middle, owned, closing, quiet, -⟩
  · rw [without_of_closed closed]
    exact Machine.Quiet.refl _
  · rw [without_of_open owned]
    exact (Syscall.close_works (backed descriptor owned) closing).trans_quiet quiet

theorem drop_works (backed : handle.Backed before.kernel) (ran : handle.drop before = ((), after)) :
    before.Works after (handle.without before.kernel.descriptors) := by
  rcases drop_ran ran with ⟨closed, rfl⟩ | ⟨descriptor, middle, closed, owned, quiet, closing⟩
  · rw [without_of_closed closed]
    exact Machine.Quiet.refl _
  · rw [without_of_open owned, ← quiet.descriptors]
    exact quiet.trans_works (Syscall.close_works (quiet.opened ▸ backed descriptor owned) closing)

theorem close_descriptors {answer : Except Error Unit}
    (ran : handle.close before = (answer, after)) :
    after.kernel.descriptors = handle.without before.kernel.descriptors := by
  rcases close_ran ran with ⟨closed, -, rfl⟩ | ⟨descriptor, closed, middle, owned, closing, quiet, -⟩
  · rw [without_of_closed closed]
  · rw [without_of_open owned, quiet.descriptors]
    exact (Syscall.close_ran closing).2.2.1

theorem drop_descriptors (ran : handle.drop before = ((), after)) :
    after.kernel.descriptors = handle.without before.kernel.descriptors := by
  rcases drop_ran ran with ⟨closed, rfl⟩ | ⟨descriptor, middle, closed, owned, quiet, closing⟩
  · rw [without_of_closed closed]
  · rw [without_of_open owned, ← quiet.descriptors]
    exact (Syscall.close_ran closing).2.2.1

theorem close_error {e : Error} (ran : handle.close before = (.error e, after)) :
    ∃ errno, e = failure handle.path errno := by
  rcases close_ran ran with ⟨-, failed, -⟩ | ⟨descriptor, closed, middle, -, -, -, answered⟩
  · cases failed
  · rcases closed with errno | ⟨⟩ <;> cases answered
    exact ⟨errno.byName, rfl⟩

theorem openPath_trails {answer : Except Error Handle}
    (ran : openPath path before = (answer, after)) : before.Trails after := by
  rcases openPath_ran ran with ⟨e, -, quiet⟩ | ⟨_, _, _, -, -, -, -, makes⟩
  · exact quiet.trails
  · exact makes.works.trails

theorem duplicate_trails {answer : Except Error Handle}
    (ran : handle.duplicate before = (answer, after)) : before.Trails after := by
  unfold duplicate Handle.descriptor at ran
  cases owned : handle.descriptor? with
  | none =>
      rw [owned] at ran
      cases ran
      exact .refl _
  | some descriptor =>
      rw [owned] at ran
      obtain ⟨found, middle, ranDup, ranRest⟩ := Op.bind_ran.mp ran
      have trails := Syscall.dup_trails ranDup
      rcases found with errno | copy <;> cases ranRest <;> exact trails

theorem close_trails {answer : Except Error Unit} (ran : handle.close before = (answer, after)) :
    before.Trails after := by
  rcases close_ran ran with ⟨-, -, rfl⟩ | ⟨descriptor, closed, middle, -, closing, quiet, -⟩
  · exact .refl _
  · exact (Syscall.close_trails closing).trans quiet.trails

theorem drop_trails (ran : handle.drop before = ((), after)) : before.Trails after := by
  rcases drop_ran ran with ⟨-, rfl⟩ | ⟨descriptor, middle, closed, -, quiet, closing⟩
  · exact .refl _
  · exact quiet.trails.trans (Syscall.close_trails closing)

theorem dropAll_trails {handles : List Handle} (ran : dropAll handles before = ((), after)) :
    before.Trails after := by
  induction handles generalizing before with
  | nil =>
      cases ran
      exact .refl _
  | cons first rest ih =>
      obtain ⟨⟨⟩, middle, ranFirst, ranRest⟩ := Op.bind_ran.mp ran
      exact (drop_trails ranFirst).trans (ih ranRest)

end Handle

theorem discard_trails [Owns α] {value : α} {before after : Machine}
    (ran : discard value before = ((), after)) : before.Trails after :=
  Handle.dropAll_trails ran

theorem ownIdentity_quiet {before after : Machine} {answer : Except Error NamespaceId}
    (ran : ownIdentity before = (answer, after)) : before.Quiet after := by
  obtain ⟨found, middle, ranStat, ranRest⟩ := Op.bind_ran.mp ran
  rcases found with errno | inode <;> cases ranRest <;> exact Syscall.stat_quiet ranStat

end NetSwitch
