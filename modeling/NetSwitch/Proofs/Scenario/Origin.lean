import NetSwitch.Proofs.Scenario.Stage

/-! What the handles of a program stand for: each for the namespace that it was opened on, in every
scene from then on.
-/

namespace NetSwitch

open Kernel (Descriptor Target)

namespace Kernel

variable {kernel : Kernel} {descriptor : Descriptor} {target : Target}

def Object.target? : Object → Option Target
  | .namespaceFile file => some file.target
  | _ => none

/-- The namespace that a descriptor refers to. -/
def target? (kernel : Kernel) (descriptor : Descriptor) : Option Target :=
  (kernel.object? descriptor).bind Object.target?

/-- The namespaces that descriptors are open on. -/
def targets (kernel : Kernel) : List Target :=
  kernel.descriptors.filterMap (·.2.target?)

theorem mem_targets (refers : kernel.target? descriptor = some target) : target ∈ kernel.targets := by
  obtain ⟨object, found, same⟩ := Option.bind_eq_some_iff.mp refers
  obtain ⟨earlier, later, listed, -⟩ := List.lookup_eq_some_iff.mp found
  exact List.mem_filterMap.mpr ⟨(descriptor, object), by simp [listed], same⟩

theorem opened_of_target? (refers : kernel.target? descriptor = some target) :
    descriptor ∈ kernel.opened := by
  obtain ⟨object, found, -⟩ := Option.bind_eq_some_iff.mp refers
  exact opened_of_object? found

end Kernel

namespace Scenario

/-- What a handle was opened on, and what it has been known by since. -/
structure Origin where
  target : Target
  id : NamespaceId
  path : Path

/-- A handle has kept what it got from its origin. -/
structure Origin.Marks (origin : Origin) (handle : Handle) (kernel : Kernel) : Prop where
  id : handle.id = origin.id
  path : handle.path = origin.path
  inode : origin.id.inode = kernel.inode origin.target
  refers : ∀ descriptor ∈ handle.descriptor?, kernel.target? descriptor = some origin.target

theorem Origin.of_genuine {handle : Handle} {kernel : Kernel} (genuine : handle.Genuine kernel)
    (isOpen : handle.descriptor?.isSome) : ∃ origin : Origin, origin.Marks handle kernel := by
  obtain ⟨descriptor, owns⟩ := Option.isSome_iff_exists.mp isOpen
  obtain ⟨file, found, identity⟩ := genuine descriptor owns
  refine ⟨⟨file.target, handle.id, handle.path⟩, rfl, rfl, identity, fun other owned => ?_⟩
  cases owns.symm.trans owned
  rw [Kernel.target?, found]
  rfl

/-! ### Operations that make handles -/

section Operations

variable {handle copy : Handle} {path : Path} {before after : Machine} {origin : Origin}

theorem Origin.Marks.genuine {kernel : Kernel} (marks : origin.Marks handle kernel) :
    handle.Genuine kernel := by
  intro descriptor owned
  obtain ⟨object, found, target⟩ := Option.bind_eq_some_iff.mp (marks.refers descriptor owned)
  cases object with
  | namespaceFile file =>
      refine ⟨file, found, ?_⟩
      rw [marks.id, marks.inode, ← Option.some.inj target]
  | _ => cases target

/-- A handle that is opened comes from the namespace file that was found at the path. -/
theorem openPath_marks (ran : Handle.openPath path before = (.ok handle, after)) :
    ∃ file, before.kernel.node? before.thread.location path = some (.namespaceFile file) ∧
      handle.descriptor?.isSome ∧
      Origin.Marks ⟨file.target, ⟨before.kernel.inode file.target⟩, path⟩ handle after.kernel := by
  obtain ⟨descriptor, file, node, owns, named, identity, makes⟩ := Handle.openPath_obtains ran
  refine ⟨file, node, by rw [owns]; rfl, congrArg NamespaceId.mk identity, named, ?_, fun other owned => ?_⟩
  · exact congrFun ((Handle.openPath_calls path).inode ran).symm _
  · cases owns.symm.trans owned
    rw [Kernel.target?, makes.object?]
    rfl

/-- A second handle comes from where the first does. -/
theorem duplicate_marks (marks : origin.Marks handle before.kernel)
    (ran : handle.duplicate before = (.ok copy, after)) :
    copy.descriptor?.isSome ∧ origin.Marks copy after.kernel := by
  obtain ⟨descriptor, own, file, owned, found, owns, path, id, -, makes⟩ :=
    Handle.duplicate_obtains marks.genuine ran
  refine ⟨by rw [owns]; rfl, id.trans marks.id, path.trans marks.path, ?_, fun other same => ?_⟩
  · rw [marks.inode]
    exact congrFun (handle.duplicate_calls.inode ran).symm _
  · cases owns.symm.trans same
    have refers := marks.refers descriptor owned
    rw [Kernel.target?, found] at refers
    rw [Kernel.target?, makes.object?]
    exact refers

end Operations

namespace Scene

variable {foreign : List Descriptor} {before after scene : Scene} {scenes : List Scene}
variable {origins others : Nat → Origin}

/-- The handles in the registry come from the origins of their slots. -/
def Marked (scene : Scene) (origins : Nat → Origin) : Prop :=
  ∀ slot ∈ scene.registry.slots, (origins slot.key).Marks slot.handle scene.machine.kernel

theorem Marked.congr (marked : scene.Marked origins)
    (same : ∀ key < scene.registry.nextKey, others key = origins key) : scene.Marked others := by
  intro slot member
  rw [same _ (scene.registry.numbered.bounded slot member)]
  exact marked slot member

/-- A handle that was there before is marked as it was, by a descriptor that is still open if by
any. -/
theorem Next.marks {slot earlier : Slot} {origin : Origin} (next : before.Next after)
    (sound : after.Sound foreign) (there : slot ∈ after.registry.slots)
    (was : slot.handle = earlier.handle ∨ slot.handle = earlier.handle.closed)
    (marks : origin.Marks earlier.handle before.machine.kernel) :
    origin.Marks slot.handle after.machine.kernel := by
  have inode : origin.id.inode = after.machine.kernel.inode origin.target := by
    rw [next.inode]
    exact marks.inode
  rcases was with same | closed
  · refine ⟨same ▸ marks.id, same ▸ marks.path, inode, fun descriptor owned => ?_⟩
    have refers := marks.refers descriptor (same ▸ owned)
    have backed := (sound.genuine slot.handle (mem_of_slot there)).backed
    rw [Kernel.target?, next.kernel.object?_of_opened (Kernel.opened_of_target? refers)
      (backed descriptor owned)]
    exact refers
  · rw [closed]
    exact ⟨marks.id, marks.path, inode, fun descriptor owned => nomatch owned⟩

/-- The next scene keeps the origins that there are, and has others for new slots. -/
theorem Next.marked (next : before.Next after) (sound : after.Sound foreign)
    (marked : before.Marked origins) : ∃ later : Nat → Origin,
      (∀ key < before.registry.nextKey, later key = origins key) ∧ after.Marked later := by
  obtain ⟨added, follows, opened⟩ := next.registry
  -- A key that is not in use keeps its origin, so that earlier scenes stay marked.
  have each (key : Nat) : ∃ origin : Origin, (key < before.registry.nextKey → origin = origins key) ∧
      ∀ slot ∈ after.registry.slots, slot.key = key → origin.Marks slot.handle after.machine.kernel := by
    by_cases present : ∃ slot ∈ after.registry.slots, slot.key = key
    · obtain ⟨slot, there, rfl⟩ := present
      have only {origin : Origin} (marks : origin.Marks slot.handle after.machine.kernel) :
          ∀ other ∈ after.registry.slots, other.key = slot.key →
            origin.Marks other.handle after.machine.kernel := by
        intro other member same
        rw [Registry.slot_unique member there same]
        exact marks
      rcases follows.slots slot there with ⟨earlier, was, key, kept⟩ | ⟨fresh, given⟩
      · refine ⟨origins slot.key, fun _ => rfl, only (next.marks sound there kept ?_)⟩
        rw [← key]
        exact marked earlier was
      · have genuine := sound.genuine slot.handle (mem_of_slot there)
        obtain ⟨origin, marks⟩ := Origin.of_genuine genuine (opened _ given)
        exact ⟨origin, fun older => absurd older (Nat.not_lt.mpr fresh), only marks⟩
    · exact ⟨origins key, fun _ => rfl, fun slot there same => absurd ⟨slot, there, same⟩ present⟩
  obtain ⟨later, facts⟩ := Classical.skolem.mp each
  exact ⟨later, fun key => (facts key).1, fun slot there => (facts slot.key).2 slot there rfl⟩

namespace Course

/-- Along a course, every slot has one origin. -/
theorem marked (course : Course foreign before scenes after) (marked : before.Marked origins) :
    ∃ later : Nat → Origin, (∀ key < before.registry.nextKey, later key = origins key) ∧
      before.Marked later ∧ ∀ scene ∈ scenes, scene.Marked later := by
  induction course generalizing origins with
  | done scene => exact ⟨origins, fun _ _ => rfl, marked, List.forall_mem_nil _⟩
  | step next sound course ih =>
      obtain ⟨first, kept, markedNext⟩ := next.marked sound marked
      obtain ⟨later, keptLater, markedFirst, markedRest⟩ := ih markedNext
      obtain ⟨added, follows, -⟩ := next.registry
      -- The scenes to come agree on the keys that have been given out, so those behind stay marked.
      have same : ∀ key < _, later key = origins key := fun key older =>
        (keptLater key (Nat.lt_of_lt_of_le older follows.keys)).trans (kept key older)
      exact ⟨later, same, marked.congr same, List.forall_mem_cons.mpr ⟨markedFirst, markedRest⟩⟩

theorem inode (course : Course foreign before scenes after) :
    ∀ scene ∈ scenes, scene.machine.kernel.inode = before.machine.kernel.inode := by
  induction course with
  | done scene => exact List.forall_mem_nil _
  | step next sound course ih =>
      exact List.forall_mem_cons.mpr ⟨next.inode, fun scene member => (ih scene member).trans next.inode⟩

/-- A slot that was not there at first has a handle that was opened on the way. -/
theorem opened (course : Course foreign before scenes after) :
    ∀ scene ∈ scenes, ∀ slot ∈ scene.registry.slots,
      (∃ earlier ∈ before.registry.slots, earlier.key = slot.key) ∨
        ∃ past ∈ scenes, ∃ first ∈ past.registry.slots,
          first.key = slot.key ∧ first.handle.descriptor?.isSome := by
  induction course with
  | done scene => exact List.forall_mem_nil _
  | @step start middle _ rest next sound course ih =>
      obtain ⟨added, follows, opened⟩ := next.registry
      have here : ∀ slot ∈ middle.registry.slots, (∃ earlier ∈ start.registry.slots, earlier.key = slot.key) ∨
          ∃ past ∈ middle :: rest, ∃ first ∈ past.registry.slots,
            first.key = slot.key ∧ first.handle.descriptor?.isSome := by
        intro slot there
        rcases follows.slots slot there with ⟨earlier, was, key, -⟩ | ⟨-, given⟩
        · exact .inl ⟨earlier, was, key⟩
        · exact .inr ⟨middle, List.mem_cons_self .., slot, there, rfl, opened _ given⟩
      refine List.forall_mem_cons.mpr ⟨here, fun scene member slot there => ?_⟩
      rcases ih scene member slot there with ⟨earlier, was, key⟩ | ⟨past, later, first⟩
      · rw [← key]
        exact here earlier was
      · exact .inr ⟨past, List.mem_cons_of_mem _ later, first⟩

end Course

/-- A handle that has been obtained by a scene, with the namespace that it was opened on. -/
inductive Obtained (scene : Scene) (origins : Nat → Origin) : Handle → Target → Prop where
  | registered (slot : Slot) (there : slot ∈ scene.registry.slots) :
      Obtained scene origins slot.handle (origins slot.key).target
  | held {handle : Handle} {descriptor : Descriptor} {target : Target} (here : handle ∈ scene.held)
      (owns : handle.descriptor? = some descriptor)
      (refers : scene.machine.kernel.target? descriptor = some target) :
      Obtained scene origins handle target

end Scene

/-! ### Programs -/

section Programs

variable {program : Program V} {machine : Machine} {origins : Nat → Origin}

/-- The namespaces that are open at some time while a program runs. -/
def Program.targets (program : Program V) (machine : Machine) : List Target :=
  (program.stage machine).flatMap fun scene => scene.machine.kernel.targets

/-- Whatever handle there is in a run has been opened, and stands for what it was opened on. -/
structure Program.Identifies (program : Program V) (machine : Machine) (origins : Nat → Origin) :
    Prop where
  marked : ∀ scene ∈ program.stage machine, scene.Marked origins
  held : ∀ scene ∈ program.stage machine, ∀ handle ∈ scene.held, handle.Genuine scene.machine.kernel
  opened : ∀ scene ∈ program.stage machine, ∀ slot ∈ scene.registry.slots,
    ∃ past ∈ program.stage machine, ∃ first ∈ past.registry.slots,
      first.key = slot.key ∧ first.handle.descriptor?.isSome

theorem Program.stage_course (program : Program V) (machine : Machine) :
    (Scene.of [] (machine, (.fresh : Session V))).Sound machine.kernel.opened ∧
      ∃ last, Scene.Course machine.kernel.opened (.of [] (machine, (.fresh : Session V)))
        (program.scenes none [] (machine, .fresh)) last := by
  have sound : (Scene.of [] (machine, (.fresh : Session V))).Sound machine.kernel.opened :=
    ⟨.refl machine.kernel, List.forall_mem_nil _⟩
  exact ⟨sound, _, program.run_course (fun _ none => nomatch none) sound rfl⟩

theorem Program.stage_sound (program : Program V) (machine : Machine) :
    ∀ scene ∈ program.stage machine, scene.Sound machine.kernel.opened := by
  obtain ⟨sound, last, course⟩ := program.stage_course machine
  exact List.forall_mem_cons.mpr ⟨sound, course.all_sound⟩

theorem Program.identifies (program : Program V) (machine : Machine) :
    ∃ origins, program.Identifies machine origins := by
  obtain ⟨sound, last, course⟩ := program.stage_course machine
  let nothing : Origin := ⟨.foreign 0, ⟨0⟩, []⟩
  have blank : (Scene.of [] (machine, (.fresh : Session V))).Marked fun _ => nothing :=
    List.forall_mem_nil _
  obtain ⟨origins, -, first, rest⟩ := course.marked blank
  refine ⟨origins, List.forall_mem_cons.mpr ⟨first, rest⟩, fun scene member handle here => ?_, ?_⟩
  · exact (program.stage_sound machine scene member).genuine handle (List.mem_append_left _ here)
  · refine List.forall_mem_cons.mpr ⟨List.forall_mem_nil _, fun scene member slot there => ?_⟩
    rcases course.opened scene member slot there with ⟨earlier, was, -⟩ | ⟨past, later, found⟩
    · cases was
    · exact ⟨past, List.mem_cons_of_mem _ later, found⟩

theorem Program.stage_inode (program : Program V) (machine : Machine) :
    ∀ scene ∈ program.stage machine, scene.machine.kernel.inode = machine.kernel.inode := by
  obtain ⟨-, last, course⟩ := program.stage_course machine
  exact List.forall_mem_cons.mpr ⟨rfl, course.inode⟩

/-- The identity of a handle is the inode of a namespace that was open when it was opened. -/
theorem Program.Identifies.identity (identifies : program.Identifies machine origins) {scene : Scene}
    {handle : Handle} {target : Target} (member : scene ∈ program.stage machine)
    (obtained : scene.Obtained origins handle target) :
    target ∈ program.targets machine ∧ handle.id.inode = machine.kernel.inode target := by
  have inode := program.stage_inode machine scene member
  cases obtained with
  | registered slot there =>
      have marks := identifies.marked scene member slot there
      refine ⟨?_, by rw [marks.id, marks.inode, inode]⟩
      obtain ⟨past, was, first, among, key, isOpen⟩ := identifies.opened scene member slot there
      obtain ⟨descriptor, owns⟩ := Option.isSome_iff_exists.mp isOpen
      have refers := (identifies.marked past was first among).refers descriptor owns
      rw [key] at refers
      exact List.mem_flatMap.mpr ⟨past, was, Kernel.mem_targets refers⟩
  | @held _ descriptor _ here owns refers =>
      refine ⟨List.mem_flatMap.mpr ⟨scene, member, Kernel.mem_targets refers⟩, ?_⟩
      obtain ⟨file, found, identity⟩ := identifies.held scene member handle here descriptor owns
      rw [Kernel.target?, found] at refers
      rw [identity, inode, ← Option.some.inj refers]

end Programs

/-- A handle has the inode of the namespace that it was opened on for an identity, and a copy has that
of its original.  Through everything that a program does on any of its threads, handles keep identity
and path, closed or not, and those that are open refer to what they were opened on.  So if the
namespaces that are open in a run have different inodes, two of its handles have the same identity if
and only if they were opened on the same namespace. -/
theorem handles_identify (program : Program V) (machine : Machine) :
    (∀ {path handle before after}, Handle.openPath path before = (.ok handle, after) →
      ∃ file, before.kernel.node? before.thread.location path = some (.namespaceFile file) ∧
        handle.descriptor?.isSome ∧
        Origin.Marks ⟨file.target, ⟨before.kernel.inode file.target⟩, path⟩ handle after.kernel) ∧
      (∀ {origin : Origin} {handle copy before after}, origin.Marks handle before.kernel →
        handle.duplicate before = (.ok copy, after) →
        copy.descriptor?.isSome ∧ origin.Marks copy after.kernel) ∧
      ∃ origins, program.Identifies machine origins ∧
        ((∀ one ∈ program.targets machine, ∀ other ∈ program.targets machine,
            machine.kernel.inode one = machine.kernel.inode other → one = other) →
          ∀ scene ∈ program.stage machine, ∀ later ∈ program.stage machine,
            ∀ {handle another target goal}, scene.Obtained origins handle target →
              later.Obtained origins another goal → (handle.id = another.id ↔ target = goal)) := by
  obtain ⟨origins, identifies⟩ := program.identifies machine
  refine ⟨openPath_marks, duplicate_marks, origins, identifies, ?_⟩
  intro distinct scene member later memberLater handle another target goal obtained obtainedLater
  obtain ⟨isOpen, inode⟩ := identifies.identity member obtained
  obtain ⟨isOpenLater, inodeLater⟩ := identifies.identity memberLater obtainedLater
  constructor
  · intro same
    exact distinct target isOpen goal isOpenLater (by rw [← inode, ← inodeLater, same])
  · intro same
    have inodes : handle.id.inode = another.id.inode := by rw [inode, inodeLater, same]
    exact congrArg NamespaceId.mk inodes

/-- A program that goes into the neighbour's namespace, and opens it once more from within and once
when it leaves. -/
def crossing : Program Unit :=
  .step true (.openPath (Bytes.ofString "/pod") "pod") <|
  .step true (.openOwn "host") <|
  .step true (.runInside (.byHandle .onWorker "pod") (.step true (.openOwn "here") .done)
    (.opened Path.threadSelf "there") false) <|
  .step true (.close "pod") .done

/-- The neighbour's namespace is known by one identity, whether it was opened at its own path or at
that of the thread that was inside, and after the first handle has been closed.  What had been opened
at the path of the thread before is another one. -/
theorem handles_identify_crossing :
    (∀ one ∈ crossing.targets Plugin.neighboured, ∀ other ∈ crossing.targets Plugin.neighboured,
        Plugin.neighboured.kernel.inode one = Plugin.neighboured.kernel.inode other → one = other) ∧
      ∃ origins, crossing.Identifies Plugin.neighboured origins ∧
        (origins 0).target = (origins 2).target ∧ (origins 2).target = (origins 3).target ∧
        (origins 1).target ≠ (origins 2).target := by
  have distinct : ∀ one ∈ crossing.targets Plugin.neighboured,
      ∀ other ∈ crossing.targets Plugin.neighboured,
        Plugin.neighboured.kernel.inode one = Plugin.neighboured.kernel.inode other → one = other := by
    decide +kernel
  obtain ⟨-, -, origins, identifies, same⟩ := handles_identify crossing Plugin.neighboured
  refine ⟨distinct, origins, identifies, ?_⟩
  let last := (crossing.stage Plugin.neighboured).getLast (List.cons_ne_nil _ _)
  have member : last ∈ crossing.stage Plugin.neighboured := List.getLast_mem _
  have obtained {key : Nat} {id : NamespaceId}
      (known : (last.registry.keyed? key).map (·.handle.id) = some id) :
      ∃ handle, last.Obtained origins handle (origins key).target ∧ handle.id = id := by
    obtain ⟨slot, found, named⟩ := Option.map_eq_some_iff.mp known
    obtain ⟨there, rfl⟩ := Registry.mem_of_keyed? found
    exact ⟨slot.handle, .registered slot there, named⟩
  have podKnown : (last.registry.keyed? 0).map (·.handle.id) = some ⟨7⟩ := by decide +kernel
  have hostKnown : (last.registry.keyed? 1).map (·.handle.id) = some ⟨4026531840⟩ := by decide +kernel
  have hereKnown : (last.registry.keyed? 2).map (·.handle.id) = some ⟨7⟩ := by decide +kernel
  have thereKnown : (last.registry.keyed? 3).map (·.handle.id) = some ⟨7⟩ := by decide +kernel
  obtain ⟨pod, fromPod, podId⟩ := obtained podKnown
  obtain ⟨host, fromHost, hostId⟩ := obtained hostKnown
  obtain ⟨here, fromHere, hereId⟩ := obtained hereKnown
  obtain ⟨there, fromThere, thereId⟩ := obtained thereKnown
  refine ⟨(same distinct last member last member fromPod fromHere).mp (podId.trans hereId.symm),
    (same distinct last member last member fromHere fromThere).mp (hereId.trans thereId.symm), ?_⟩
  intro alike
  have one := (same distinct last member last member fromHost fromHere).mpr alike
  rw [hostId, hereId] at one
  cases one

end Scenario

end NetSwitch
