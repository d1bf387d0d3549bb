import NetSwitch.Proofs.Scenario.Ownership
import NetSwitch.Proofs.Scenario.Slots
import NetSwitch.Proofs.Switch.Arrival

/-! The scenes of a program: the states that it goes through, on all of its threads, in the order in
which it does.

A thread that waits for another does nothing meanwhile, so the scenes of all threads come one after
the other.  From each to the next, slots keep their handles but for those that are closed, and new
ones get handles that have just been opened.
-/

namespace NetSwitch.Scenario

open Kernel (Descriptor)
open Switch (Arrival)

/-- A machine between two actions, with the handles that are held by name and those that are held for
the switches in progress. -/
structure Scene where
  machine : Machine
  registry : Registry
  held : List Handle

namespace Scene

def of (held : List Handle) (state : Machine × Session V) : Scene :=
  ⟨state.1, state.2.registry, held⟩

def handles (scene : Scene) : List Handle :=
  scene.held ++ scene.registry.handles

theorem mem_of_slot {scene : Scene} {slot : Slot} (there : slot ∈ scene.registry.slots) :
    slot.handle ∈ scene.handles :=
  List.mem_append_right _ (Registry.mem_handles there)

end Scene

/-! ### The scenes of programs -/

def Mode.arrive (mode : Mode) (destination : Handle) (machine : Machine) : Option Arrival :=
  match mode with
  | .here => Switch.arrive destination [] machine
  | .onWorker => Switch.arriveOnWorker destination machine
  | .detached => Switch.arriveDetached destination machine

/-- Where the code inside a namespace begins, if it is reached. -/
def Entry.arrive (entry : Entry) (state : Machine × Session V) : Option (Arrival × Session V) :=
  match entry with
  | .byPath path =>
      (Switch.arriveAtPath path state.1).map fun arrival => (arrival, { state.2 with inner := none })
  | .byHandle mode name =>
      match state.2.registry.slot? name with
      | none => none
      | some slot =>
          (mode.arrive slot.handle state.1).map fun arrival =>
            (arrival, { registry := state.2.registry.lend slot.key, inner := none })

/-- The scene on arrival and those after it. -/
def Entry.scenes (entry : Entry) (inside : Handle → List Handle → Machine × Session V → List Scene)
    (held : List Handle) (state : Machine × Session V) : List Scene :=
  (entry.arrive state).elim [] fun (arrival, session) =>
    .of (arrival.handles ++ held) (arrival.machine, session) ::
      inside arrival.home (arrival.handles ++ held) (arrival.machine, session)

mutual

/-- The scenes of the code that an action runs, inside a namespace or on a new thread. -/
def Action.scenes : Action V → Option Handle → List Handle → Machine × Session V → List Scene
  | .runInside entry program _ _, _, held, state =>
      entry.scenes (fun home => program.scenes (some home)) held state
  | .thread program, home, held, state =>
      let worker := { state.1 with thread := state.1.thread.spawned }
      .of held (worker, state.2) :: program.scenes home held (worker, state.2)
  | _, _, _, _ => []

/-- The scenes of a program from its first action on. -/
def Program.scenes : Program V → Option Handle → List Handle → Machine × Session V → List Scene
  | .done, _, _, _ => []
  | .step strict action rest, home, held, state =>
      let (reaction, left) := action.run home state
      let acted := action.scenes home held state ++ [.of held left]
      match reaction, strict with
      | .unwound _, _ => acted
      | .answered _ (some _), true => acted
      | .answered _ _, _ => acted ++ rest.scenes home held left

end

/-- All scenes of a program that is started on a machine. -/
def Program.stage (program : Program V) (machine : Machine) : List Scene :=
  let start : Machine × Session V := (machine, .fresh)
  .of [] start :: program.scenes none [] start

/-! ### From one scene to the next -/

/-- Every slot was there before and has its handle, which may have been closed, or it is new and has
one of the handles that were added. -/
structure Registry.Follows (before after : Registry) (added : List Handle) : Prop where
  keys : before.nextKey ≤ after.nextKey
  slots : ∀ slot ∈ after.slots,
    (∃ earlier ∈ before.slots, earlier.key = slot.key ∧
      (slot.handle = earlier.handle ∨ slot.handle = earlier.handle.closed)) ∨
    before.nextKey ≤ slot.key ∧ slot.handle ∈ added

theorem Registry.Carries.follows {before after : Registry} {added : List Handle}
    (carries : before.Carries after added) : before.Follows after added where
  keys := carries.keys
  slots slot member := (carries.slots slot member).imp_left
    fun ⟨earlier, there, key, same⟩ => ⟨earlier, there, key, .inl same⟩

namespace Scene

/-- The handles of a scene own the descriptors that are open, and have the identities of what these
refer to. -/
structure Sound (foreign : List Descriptor) (scene : Scene) : Prop where
  accounts : scene.machine.kernel.Accounts foreign scene.handles scene.machine.kernel
  genuine : ∀ handle ∈ scene.handles, handle.Genuine scene.machine.kernel

/-- From a scene to another: the handles of both have been kept or closed, and those that are new
have been told their identities since. -/
structure Develops (before after : Scene) : Prop where
  inode : after.machine.kernel.inode = before.machine.kernel.inode
  held : ∀ handle ∈ after.held, handle ∈ before.held ∨ handle.Traced after.machine.kernel
  registry : ∃ added, before.registry.Follows after.registry added ∧
    ∀ handle ∈ added, handle.descriptor?.isSome ∧ handle.Traced after.machine.kernel

/-- One scene is the next after another. -/
structure Next (before after : Scene) : Prop where
  kernel : before.machine.kernel.Extends after.machine.kernel
  inode : after.machine.kernel.inode = before.machine.kernel.inode
  registry : ∃ added, before.registry.Follows after.registry added ∧
    ∀ handle ∈ added, handle.descriptor?.isSome

/-- The handles of a scene are kept, and those that are added come into the registry. -/
structure Grows (before after : Scene) (added : List Handle) : Prop where
  kernel : before.machine.kernel.Extends after.machine.kernel
  inode : after.machine.kernel.inode = before.machine.kernel.inode
  held : after.held ⊆ before.held
  registry : before.registry.Carries after.registry added

variable {foreign : List Descriptor} {before middle after : Scene} {added more : List Handle}

theorem Grows.trans (first : before.Grows middle added) (second : middle.Grows after more) :
    before.Grows after (added ++ more) where
  kernel := first.kernel.trans second.kernel
  inode := second.inode.trans first.inode
  held := List.Subset.trans second.held first.held
  registry := first.registry.trans second.registry

theorem Grows.develops (grows : before.Grows after added)
    (obtained : ∀ handle ∈ added, handle.descriptor?.isSome ∧ handle.Traced after.machine.kernel) :
    before.Develops after where
  inode := grows.inode
  held _ member := .inl (grows.held member)
  registry := ⟨added, grows.registry.follows, obtained⟩

theorem Develops.next (develops : before.Develops after)
    (grown : before.machine.kernel.Extends after.machine.kernel) : before.Next after := by
  obtain ⟨added, follows, obtained⟩ := develops.registry
  exact ⟨grown, develops.inode, added, follows, fun handle given => (obtained handle given).1⟩

/-- What a sound scene develops into is sound if its accounts are in order. -/
theorem Sound.develop (sound : before.Sound foreign) (develops : before.Develops after)
    (accounts : before.machine.kernel.Accounts foreign after.handles after.machine.kernel) :
    after.Sound foreign := by
  obtain ⟨inode, held, added, follows, obtained⟩ := develops
  have kept {handle : Handle} (member : handle ∈ before.handles) : handle.Traced after.machine.kernel :=
    (sound.genuine handle member).traced.mono accounts.grown inode
  have traced : ∀ handle ∈ after.handles, handle.Traced after.machine.kernel := by
    intro handle member
    rcases List.mem_append.mp member with here | listed
    · rcases held handle here with earlier | traced
      · exact kept (List.mem_append_left _ earlier)
      · exact traced
    · obtain ⟨slot, there, rfl⟩ := List.mem_map.mp listed
      rcases follows.slots slot there with ⟨earlier, was, -, same | closed⟩ | ⟨-, given⟩
      · rw [same]
        exact kept (mem_of_slot was)
      · rw [closed]
        exact (Handle.genuine_of_closed rfl).traced
      · exact (obtained _ given).2
  exact ⟨accounts.rebase, fun handle member => (traced handle member).genuine (accounts.backed member)⟩

/-- The scenes from one to another, without the first and with the last. -/
inductive Course (foreign : List Descriptor) : Scene → List Scene → Scene → Prop where
  | done (scene : Scene) : Course foreign scene [] scene
  | step {before middle after : Scene} {rest : List Scene} (next : before.Next middle)
      (sound : middle.Sound foreign) (course : Course foreign middle rest after) :
      Course foreign before (middle :: rest) after

namespace Course

variable {scenes rest : List Scene}

/-- What a sound scene develops into is the next scene. -/
theorem single (sound : before.Sound foreign) (develops : before.Develops after)
    (accounts : before.machine.kernel.Accounts foreign after.handles after.machine.kernel) :
    Course foreign before [after] after :=
  .step (develops.next accounts.grown) (sound.develop develops accounts) (.done after)

theorem append (first : Course foreign before scenes middle)
    (second : Course foreign middle rest after) : Course foreign before (scenes ++ rest) after := by
  induction first with
  | done scene => exact second
  | step next sound _ ih => exact .step next sound (ih second)

theorem last_sound (start : before.Sound foreign) (course : Course foreign before scenes after) :
    after.Sound foreign := by
  induction course with
  | done scene => exact start
  | step next sound _ ih => exact ih sound

theorem all_sound (course : Course foreign before scenes after) :
    ∀ scene ∈ scenes, scene.Sound foreign := by
  induction course with
  | done scene => exact List.forall_mem_nil _
  | step next sound _ ih => exact List.forall_mem_cons.mpr ⟨sound, ih⟩

end Course

end Scene

end NetSwitch.Scenario
