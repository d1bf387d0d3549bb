import NetSwitch.Proofs.Calm
import NetSwitch.Proofs.Plugin.Confinement

/-! Excursions in an orderly world: they get where the path leads, do what is wanted there, and
leave the world as orderly as they found it. -/

namespace NetSwitch

open Kernel (Descriptor Entry)

/-- The network namespace that a thread in a namespace gets to by opening a path. -/
def Kernel.opensTo? (kernel : Kernel) (location : String) (path : Path) : Option String :=
  if kernel.isNetworkAt location path then kernel.lead? location path else none

/-- A world in which no fault is armed, a thread that may do as it likes and is where it belongs,
and a loopback device in every namespace. -/
structure Machine.Orderly (machine : Machine) : Prop where
  calm : machine.Calm
  idle : machine.thread.state = .idle
  own : machine.kernel.opensTo? machine.thread.location Path.threadSelf = some machine.thread.location
  equipped : ∀ n ∈ machine.kernel.namespaces,
    (machine.kernel.flags? n.name (Bytes.ofString Device.loopback.name)).isSome
  uninterrupted : ∀ path, machine.kernel.node? machine.thread.location path ≠ some (.failing .interrupted)

theorem Machine.Orderly.of_alike {before after : Machine} (orderly : before.Orderly)
    (alike : before.Alike after) : after.Orderly := by
  obtain ⟨calm, idle, own, equipped, uninterrupted⟩ := orderly
  refine ⟨(Pauses.of_alike alike).calm calm, by rw [alike.thread, idle], ?_, ?_, ?_⟩
  · rw [alike.kernel, alike.thread, own]
  · rw [alike.kernel]
    exact equipped
  · rw [alike.kernel, alike.thread]
    exact uninterrupted

namespace Kernel

variable {kernel before after : Kernel} {location name : String} {path : Path}

theorem opensTo?_eq_some : kernel.opensTo? location path = some name ↔
    kernel.isNetworkAt location path = true ∧ kernel.lead? location path = some name := by
  simp [opensTo?]

theorem opensTo?_of_files (same : after.files = before.files) :
    after.opensTo? location path = before.opensTo? location path := by
  have found : after.node? location path = before.node? location path := by rw [node?, same, node?]
  rw [opensTo?, isNetworkAt, lead?, found, opensTo?, isNetworkAt, lead?]

end Kernel

theorem Device.Asked.calm {device : Device} {desired? : Option LinkState} {before after : Machine}
    {found : Except Error UInt16} (asked : Device.Asked device desired? before after found)
    (calm : before.Calm) : after.Calm := by
  obtain ⟨moments, course, -⟩ := asked.within
  exact course.calm calm

theorem Switch.restore_descriptors {home : Handle} {own : Descriptor} {before after : Machine}
    {restored : Except Error Unit} (owns : home.descriptor? = some own)
    (ran : Switch.restore home before = (restored, after)) :
    after.kernel.descriptors = home.without before.kernel.descriptors := by
  obtain ⟨report, moved, noted, moving, pauses, leaving, -⟩ := Switch.restore_steps owns ran
  obtain ⟨closed, shut, closing, ranRest⟩ := Op.bind_ran.mp leaving
  have descriptors := Handle.close_descriptors closing
  rw [pauses.kernel, (Syscall.setns_ran moving).2.1] at descriptors
  rcases closed with e | ⟨⟩
  · rw [(Op.emit_alike ranRest).kernel, descriptors]
  · cases ranRest
    exact descriptors

namespace Plugin

variable {before after : Machine} {netns : Path} {desired? : Option LinkState}
variable {outcome : Except NetSwitch.Error UInt16} {name : String} {flags : UInt16}

/-- A path that opens is opened, and leaves a world like the one it found. -/
theorem openPath_orderly {answer : Except NetSwitch.Error Handle} (orderly : before.Orderly)
    (opening : Handle.openPath netns before = (answer, after)) :
    after.Calm ∧ after.thread = before.thread ∧ after.kernel.files = before.kernel.files := by
  obtain ⟨moments, course, -⟩ := Handle.openPath_calls _ _ _ _ opening
  exact ⟨course.calm orderly.calm, (Handle.openPath_trails opening).thread, course.files⟩

theorem left_orderly {target home : Handle} {opened entered left : Machine}
    {found : Except NetSwitch.Error UInt16} (orderly : before.Orderly)
    (opening : Handle.openPath netns before = (.ok target, opened))
    (entering : Switch.enter target opened = (.ok home, entered))
    (asking : Device.Asked Device.loopback desired? entered left found) :
    left.Calm ∧ ∃ own, home.descriptor? = some own ∧
      left.kernel.network? own = some before.thread.location := by
  obtain ⟨calm, thread, files⟩ := openPath_orderly orderly opening
  have inside := (Switch.enter_calls target).calm entering calm
  obtain ⟨-, goal, looked, moved, aims, looking, moving, rfl⟩ := Switch.enter_ok_iff.mp entering
  obtain ⟨own, owns, -, leads⟩ := network?_of_openPath looking
  -- The handle of its own namespace was opened before the thread moved, and asking leaves it alone.
  refine ⟨asking.calm inside, own, owns, ?_⟩
  have still : (Switch.arrived target home moved).kernel.network? own = looked.kernel.network? own := by
    simp only [Kernel.network?, Kernel.object?, Switch.arrived, (Syscall.setns_ran moving).2.1]
  have ours : opened.kernel.opensTo? opened.thread.location Path.threadSelf =
      some before.thread.location := by
    rw [Kernel.opensTo?_of_files files, thread, orderly.own]
  rw [asking.quiet.network?, still, leads, (Kernel.opensTo?_eq_some.mp ours).2]

theorem target_open {target home : Handle} {opened entered left back : Machine} {goal : Descriptor}
    {found : Except NetSwitch.Error UInt16} {restored : Except NetSwitch.Error Unit}
    (isOpen : goal ∈ opened.kernel.opened)
    (entering : Switch.enter target opened = (.ok home, entered))
    (asking : Device.Asked Device.loopback desired? entered left found)
    (restoring : Switch.restore home left = (restored, back)) : goal ∈ back.kernel.opened := by
  obtain ⟨_, own, _, moved⟩ := Switch.enter_entered entering
  obtain ⟨object, descriptors⟩ := moved.descriptors
  have inside : goal ∈ left.kernel.opened := by
    rw [asking.quiet.opened, Kernel.opened, descriptors, List.map_append]
    exact List.mem_append_left _ isOpen
  have other : home.descriptor? ≠ some goal := by
    intro same
    cases moved.owns.symm.trans same
    exact Nat.not_lt.mpr (Kernel.opened_bounded isOpen) moved.fresh
  rw [Handle.opened_without (Switch.restore_descriptors moved.owns restoring)]
  exact List.mem_filter.mpr ⟨inside, by simpa using other⟩

theorem Excursion.thread (orderly : before.Orderly)
    (excursion : Excursion netns desired? before after outcome) : after.thread = before.thread := by
  cases excursion with
  | unopened e opening => exact (openPath_orderly orderly opening).2.1
  | refused e target opened left closed opening entering closing =>
      obtain ⟨goal, owns, isOpen, -⟩ := network?_of_openPath opening
      have refused := (Switch.enter_error entering).quiet (Handle.backed_of_mem owns isOpen)
      rw [(Handle.close_trails closing).thread, refused.thread,
        (openPath_orderly orderly opening).2.1]
  | made target home opened entered left back noted found restored closed opening entering asking
      restoring alike closing =>
      obtain ⟨calm, own, owns, leads⟩ := left_orderly orderly opening entering asking
      obtain ⟨_, _, location, moved⟩ := Switch.enter_entered entering
      obtain ⟨-, returned⟩ := Switch.restore_served calm owns leads restoring
      rw [(Handle.close_trails closing).thread, alike.thread, returned, asking.quiet.thread, moved.thread,
        (openPath_orderly orderly opening).2.1, ← orderly.idle]

theorem Excursion.served (orderly : before.Orderly)
    (opens : before.kernel.opensTo? before.thread.location netns = some name)
    (present : before.kernel.flags? name (Bytes.ofString Device.loopback.name) = some flags)
    (excursion : Excursion netns desired? before after outcome) : outcome = .ok flags := by
  obtain ⟨genuine, led⟩ := Kernel.opensTo?_eq_some.mp opens
  cases excursion with
  | unopened e opening =>
      obtain ⟨target, made⟩ := (Handle.openPath_served orderly.calm opening).mpr genuine
      cases made
  | refused e target opened left closed opening entering closing =>
      obtain ⟨calm, thread, files⟩ := openPath_orderly orderly opening
      obtain ⟨goal, owns, -, leads⟩ := network?_of_openPath opening
      have ours : opened.kernel.opensTo? opened.thread.location Path.threadSelf =
          some opened.thread.location := by
        rw [Kernel.opensTo?_of_files files, thread, orderly.own]
      obtain ⟨home, made⟩ := Switch.enter_served calm (by rw [thread, orderly.idle]) owns
        (leads.trans led) (Kernel.opensTo?_eq_some.mp ours).1 entering
      cases made
  | made target home opened entered left back noted found restored closed opening entering asking
      restoring alike closing =>
      obtain ⟨calm, own, owns, leads⟩ := left_orderly orderly opening entering asking
      obtain ⟨opensCalm, -, -⟩ := openPath_orderly orderly opening
      have entersCalm := (Switch.enter_calls target).calm entering opensCalm
      -- The flags that are asked for inside are those that were there before the thread went in.
      have here : name = entered.thread.location :=
        Option.some.inj (led.symm.trans (lead_of_entered opening entering))
      have same := ((Switch.enter_calls target).namespaces entering).trans (Handle.openPath_namespaces opening)
      rw [here, ← Kernel.flags?_of_namespaces same] at present
      obtain rfl := asking.served entersCalm ⟨_, rfl⟩ present
      obtain ⟨rfl, -⟩ := Switch.restore_served calm owns leads restoring
      obtain ⟨goal, aims, isOpen, -⟩ := network?_of_openPath opening
      have stillOpen := target_open isOpen entering asking restoring
      have backCalm := (Switch.restore_calls home).calm restoring calm
      rw [← alike.kernel] at stillOpen
      obtain rfl := Handle.close_served ((Machine.Pauses.of_alike alike).calm backCalm) aims stillOpen closing
      rfl

/-- The namespaces of a kernel after an excursion to what a path opens to. -/
def visited (kernel : Kernel) (desired? : Option LinkState) : Option String → List Kernel.Namespace
  | some name => Device.requested kernel name Device.loopback desired?
  | none => kernel.namespaces

theorem visited_of_missing (missing : before.kernel.flags? name (Bytes.ofString Device.loopback.name) = none) :
    visited before.kernel desired? (some name) = before.kernel.namespaces := by
  cases desired? with
  | none => rfl
  | some desired => simp [visited, Device.requested, Kernel.brought, missing]

/-- The device is brought into the state that is wanted if there is one where the path leads, and
nothing else is changed. -/
theorem Excursion.visits (orderly : before.Orderly)
    (excursion : Excursion netns desired? before after outcome) :
    after.kernel.namespaces = visited before.kernel desired?
      (before.kernel.opensTo? before.thread.location netns) := by
  cases opens : before.kernel.opensTo? before.thread.location netns with
  | none =>
      rcases excursion.opened_or with ⟨target, opened, opening⟩ | same
      · rcases excursion.answered with ⟨-, same⟩ | ⟨name, _, _, _, led, -, -⟩
        · exact same
        · have genuine := (Handle.openPath_served orderly.calm opening).mp ⟨target, rfl⟩
          cases opens.symm.trans (Kernel.opensTo?_eq_some.mpr ⟨genuine, led⟩)
      · exact same
  | some name =>
      have led := (Kernel.opensTo?_eq_some.mp opens).2
      cases present : before.kernel.flags? name (Bytes.ofString Device.loopback.name) with
      | some flags =>
          obtain rfl := excursion.served orderly opens present
          obtain ⟨_, there, -, left⟩ := excursion.reached
          cases led.symm.trans there
          exact left
      | none =>
          rw [visited_of_missing present]
          rcases excursion.answered with ⟨-, same⟩ | ⟨_, found, _, _, there, answered, -⟩
          · exact same
          · cases led.symm.trans there
            rcases found with e | flags
            · exact answered.failed e rfl
            · cases present.symm.trans (answered.read flags rfl).1

/-- The flags of other devices are as they were, and those of a loopback device are brought into
the state that is wanted if the path opens to its namespace. -/
theorem flags?_of_visited {kernel left : Kernel} {opens? : Option String} {location : String}
    {device : Bytes} (same : left.namespaces = visited kernel desired? opens?) :
    left.flags? location device =
      if device = Bytes.ofString Device.loopback.name then
        (kernel.flags? location device).map fun flags =>
          (if opens? = some location then desired? else none).elim flags (Device.withState flags)
      else kernel.flags? location device := by
  rcases opens? with _ | name
  · replace same : left.namespaces = kernel.namespaces := same
    simp [Kernel.flags?_of_namespaces same]
  rcases desired? with _ | desired
  · replace same : left.namespaces = kernel.namespaces := same
    simp [Kernel.flags?_of_namespaces same]
  rw [Device.flags?_of_requested same]
  by_cases here : location = name
  · subst here
    by_cases loopback : device = Bytes.ofString Device.loopback.name <;> simp [loopback]
  · simp [here, Ne.symm here]

theorem layout_of_visited {left : Kernel} {opens? : Option String}
    (same : left.namespaces = visited before.kernel desired? opens?) :
    left.layout = before.kernel.layout := by
  cases opens? with
  | none => exact Kernel.layout_of_namespaces same
  | some name => exact Device.layout_of_requested same

theorem Excursion.orderly (orderly : before.Orderly)
    (excursion : Excursion netns desired? before after outcome) :
    after.Orderly ∧ after.kernel.files = before.kernel.files := by
  obtain ⟨moments, course, -⟩ := excursion.calls
  have thread := excursion.thread orderly
  have namespaces := excursion.visits orderly
  refine ⟨⟨course.calm orderly.calm, by rw [thread, orderly.idle], ?_, ?_, ?_⟩, course.files⟩
  · rw [Kernel.opensTo?_of_files course.files, thread, orderly.own]
  · intro n member
    rw [flags?_of_visited namespaces, if_pos rfl, Option.isSome_map]
    have named : n.name ∈ before.kernel.layout.map (·.1) := by
      rw [← layout_of_visited namespaces, Kernel.layout, List.map_map]
      exact List.mem_map_of_mem member
    obtain ⟨m, earlier, same⟩ : ∃ m ∈ before.kernel.namespaces, m.name = n.name := by
      simpa [Kernel.layout] using named
    rw [← same]
    exact orderly.equipped m earlier
  · intro path
    rw [thread, Kernel.node?, course.files, ← Kernel.node?]
    exact orderly.uninterrupted path

end Plugin

end NetSwitch
