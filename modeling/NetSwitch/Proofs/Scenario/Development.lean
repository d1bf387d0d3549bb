import NetSwitch.Proofs.Plugin.Confinement
import NetSwitch.Proofs.Scenario.Scene

/-! Every action goes from scene to scene, and so does every program. -/

namespace NetSwitch

open Kernel (Descriptor)

theorem Device.Asked.inode {device : Device} {desired? : Option LinkState} {before after : Machine}
    {found : Except Error UInt16} (asked : Device.Asked device desired? before after found) :
    after.kernel.inode = before.kernel.inode := by
  obtain ⟨moments, course, -⟩ := asked.within
  exact course.inode

theorem Plugin.run_inode {request : Plugin.Request} {stdin : Bytes} {before after : Machine}
    {answer : Except Plugin.Error Plugin.Reply}
    (ran : Plugin.run request stdin before = (answer, after)) :
    after.kernel.inode = before.kernel.inode := by
  rcases Plugin.run_excursion ran with
    ⟨-, alike⟩ | ⟨netns, outcome, noted, left, -, -, -, alike, excursion, rest, -⟩
  · rw [alike.kernel]
  · obtain ⟨moments, course, -⟩ := excursion.calls
    rw [rest.kernel, course.inode, alike.kernel]

namespace Scenario

variable {origin : Kernel} {foreign : List Descriptor} {held : List Handle}
variable {before after : Machine} {session left : Session V} {name : String} {value : Reaction V}

/-! ### Actions that leave the handles alone -/

/-- What changes neither the identities of namespaces nor the handles that are held. -/
def Inert (run : Run V α) : Prop :=
  ∀ ⦃before session value after left⦄, run (before, session) = (value, after, left) →
    after.kernel.inode = before.kernel.inode ∧ left.registry = session.registry

theorem inert_pure {value : α} : Inert (pure value : Run V α) := by
  intro before session value after left ran
  cases ran
  exact ⟨rfl, rfl⟩

theorem inert_bind {first : Run V α} {next : α → Run V β} (inertFirst : Inert first)
    (inertNext : ∀ value, Inert (next value)) : Inert (first >>= next) := by
  intro before session value after left ran
  obtain ⟨found, ⟨middle, between⟩, ranFirst, ranNext⟩ := Task.bind_ran.mp ran
  obtain ⟨inode, same⟩ := inertFirst ranFirst
  obtain ⟨inodeNext, sameNext⟩ := inertNext found ranNext
  exact ⟨inodeNext.trans inode, sameNext.trans same⟩

theorem inert_op {op : Op α} (inode : ∀ {before answer after}, op before = (answer, after) →
    after.kernel.inode = before.kernel.inode) : Inert (Task.ofOp op : Run V α) := by
  intro before session value after left ran
  obtain ⟨_, ranOp, ⟨⟩⟩ := Task.ofOp_ran.mp ran
  exact ⟨inode ranOp, rfl⟩

theorem actOnDevice_inert {device : Device} {action : DeviceAction} :
    Inert (actOnDevice device action : Run V _) := by
  cases action with
  | set state =>
      refine inert_bind (inert_op fun ran => ?_) fun _ => inert_pure
      obtain ⟨found, asked, -⟩ := Device.bring_asked ran
      exact asked.inode
  | query =>
      refine inert_bind (inert_op fun ran => ?_) fun _ => inert_pure
      obtain ⟨found, asked, -⟩ := Device.state_asked ran
      exact asked.inode

theorem invokePlugin_inert {request : Plugin.Request} {stdin : Bytes} :
    Inert (invokePlugin request stdin : Run V _) := by
  refine inert_bind (inert_op Plugin.run_inode) fun answer => ?_
  cases answer <;> exact inert_pure

theorem change_inert {f : Kernel → Kernel} (same : ∀ kernel, (f kernel).identities = kernel.identities) :
    Inert (change f : Run V _) := by
  refine inert_bind (inert_op fun ran => ?_) fun _ => inert_pure
  cases ran
  exact Kernel.inode_of_identities (same _)

theorem changeFile_inert {path : Path} {f : Kernel → Kernel}
    (same : ∀ kernel, (f kernel).identities = kernel.identities) :
    Inert (changeFile path f : Run V _) := by
  refine inert_bind (inert_op ?_) fun _ => inert_bind (inert_op fun ran => ?_) fun _ => inert_pure
  · intro before answer after ran
    cases ran
    rfl
  · cases ran
    exact Kernel.inode_of_identities (same _)

theorem develops_of_inert (inode : after.kernel.inode = before.kernel.inode)
    (same : left.registry = session.registry) :
    (Scene.of held (before, session)).Develops (.of held (after, left)) where
  inode := inode
  held _ member := .inl member
  registry := ⟨[], (Registry.Carries.of_eq same).follows, List.forall_mem_nil _⟩

/-! ### Handles that are obtained, closed and dropped -/

/-- An operation makes handles that are open and have the identities of what they refer to. -/
structure Obtains (op : Op (Except Error Handle)) (before : Machine) : Prop where
  inode : ∀ {answer after}, op before = (answer, after) → after.kernel.inode = before.kernel.inode
  accounts : ∀ {origin foreign handles answer after}, Kernel.Accounts origin foreign handles before.kernel →
    op before = (answer, after) → origin.Accounts foreign (Owns.handles answer ++ handles) after.kernel
  genuine : ∀ {answer after}, op before = (answer, after) →
    ∀ handle ∈ Owns.handles answer, handle.descriptor?.isSome ∧ handle.Genuine after.kernel

theorem obtains_openPath (path : Path) (before : Machine) : Obtains (Handle.openPath path) before where
  inode := (Handle.openPath_calls path).inode
  accounts := Handle.openPath_accounts
  genuine := by
    intro answer after ran handle made
    rcases answer with e | opened
    · cases made
    · obtain rfl := List.mem_singleton.mp made
      obtain ⟨descriptor, -, -, owns, -⟩ := Handle.openPath_obtains ran
      exact ⟨by rw [owns]; rfl, Handle.openPath_genuine ran⟩

theorem obtains_duplicate {handle : Handle} (genuine : handle.Genuine before.kernel) :
    Obtains handle.duplicate before where
  inode := handle.duplicate_calls.inode
  accounts accounts := Handle.duplicate_accounts accounts genuine.backed
  genuine := by
    intro answer after ran copy made
    rcases answer with e | copied
    · cases made
    · obtain rfl := List.mem_singleton.mp made
      obtain ⟨-, own, -, -, -, owns, -⟩ := Handle.duplicate_obtains genuine ran
      exact ⟨by rw [owns]; rfl, Handle.duplicate_genuine genuine ran⟩

theorem exchange_grows {change : Registry → Option Handle × Registry} {gives added : List Handle}
    (exchanging : ∀ {registry released exchanged}, change registry = (released, exchanged) →
      (gives ++ registry.handles).Perm (released.toList ++ exchanged.handles))
    (carries : session.registry.Carries (change session.registry).2 added)
    (accounts : origin.Accounts foreign (gives ++ (held ++ Owns.handles session)) before.kernel)
    (ran : exchange change (before, session) = ((), after, left)) :
    (Scene.of held (before, session)).Grows (.of held (after, left)) added := by
  have grown := (exchange_accounts exchanging accounts.rebase ran).grown
  obtain ⟨same, dropping⟩ := exchange_ran ran
  refine ⟨grown, ?_, List.Subset.refl _, ?_⟩
  · split at dropping
    · subst dropping
      rfl
    · exact (Handle.drop_calls _).inode dropping
  · change session.registry.Carries left.registry added
    rw [same]
    exact carries

theorem hold_grows {handle : Handle}
    (accounts : origin.Accounts foreign (handle :: (held ++ Owns.handles session)) before.kernel)
    (ran : hold name handle (before, session) = ((), after, left)) :
    (Scene.of held (before, session)).Grows (.of held (after, left)) [handle] := by
  have given : origin.Accounts foreign ([handle] ++ (held ++ Owns.handles session)) before.kernel :=
    accounts
  exact exchange_grows Registry.handles_place .place given ran

theorem holdNew_develops {op : Op (Except Error Handle)}
    (sound : (Scene.of held (before, session)).Sound foreign) (obtains : Obtains op before)
    (ran : holdNew name op (before, session) = (value, after, left)) :
    (Scene.of held (before, session)).Develops (.of held (after, left)) := by
  obtain ⟨made, ⟨machine, _⟩, ranOp, ranRest⟩ := Task.bind_ran.mp ran
  obtain ⟨_, making, ⟨⟩⟩ := Task.ofOp_ran.mp ranOp
  have joined := obtains.accounts sound.accounts making
  have inode := obtains.inode making
  cases made with
  | error e =>
      cases ranRest
      exact develops_of_inert inode rfl
  | ok handle =>
      obtain ⟨⟨⟩, ⟨holding, there⟩, ranHold, ranRest⟩ := Task.bind_ran.mp ranRest
      cases ranRest
      obtain ⟨isOpen, genuine⟩ := obtains.genuine making handle (List.mem_singleton_self _)
      have first : (Scene.of held (before, session)).Grows (.of held (machine, session)) [] :=
        ⟨joined.grown, inode, List.Subset.refl _, .refl _⟩
      have second := hold_grows joined ranHold
      refine (first.trans second).develops fun other added => ?_
      obtain rfl := List.mem_singleton.mp added
      exact ⟨isOpen, genuine.traced.mono second.kernel second.inode⟩

theorem closeSlot_develops {slot : Slot} (member : slot ∈ session.registry.slots)
    (ran : closeSlot slot (before, session) = (value, after, left)) :
    (Scene.of held (before, session)).Develops (.of held (after, left)) := by
  obtain ⟨closed, ⟨machine, _⟩, ranClose, ranRest⟩ := Task.bind_ran.mp ran
  obtain ⟨_, closing, ⟨⟩⟩ := Task.ofOp_ran.mp ranClose
  obtain ⟨⟨⟩, ⟨set, there⟩, ranSet, ranRest⟩ := Task.bind_ran.mp ranRest
  cases ranRest
  cases ranSet
  refine ⟨slot.handle.close_calls.inode closing, fun _ member => .inl member, [],
    ⟨Nat.le_refl _, fun changed there => .inl ?_⟩, List.forall_mem_nil _⟩
  obtain ⟨old, was, rfl⟩ := Registry.mem_update.mp there
  refine ⟨old, was, (Registry.changeAt_key old).symm, ?_⟩
  by_cases here : old.key = slot.key
  · obtain rfl := Registry.slot_unique was member here
    rw [Registry.changeAt_of_key rfl]
    exact .inr rfl
  · rw [Registry.changeAt_of_other here]
    exact .inl rfl

theorem dropSlot_develops {slot : Slot}
    (ran : dropSlot slot (before, session) = (value, after, left)) :
    (Scene.of held (before, session)).Develops (.of held (after, left)) := by
  obtain ⟨⟨⟩, ⟨set, there⟩, ranSet, ranRest⟩ := Task.bind_ran.mp ran
  obtain ⟨⟨⟩, ⟨machine, _⟩, ranDrop, ranRest⟩ := Task.bind_ran.mp ranRest
  cases ranRest
  cases ranSet
  obtain ⟨_, dropping, ⟨⟩⟩ := Task.ofOp_ran.mp ranDrop
  exact ⟨slot.handle.drop_calls.inode dropping, fun _ member => .inl member, [],
    Registry.Carries.remove.follows, List.forall_mem_nil _⟩

theorem withSlot_develops {use : Slot → Run V (Reaction V)}
    (uses : ∀ slot ∈ session.registry.slots, use slot (before, session) = (value, after, left) →
      (Scene.of held (before, session)).Develops (.of held (after, left)))
    (ran : withSlot name use (before, session) = (value, after, left)) :
    (Scene.of held (before, session)).Develops (.of held (after, left)) := by
  rcases withSlot_ran ran with ⟨-, -, rfl, rfl⟩ | ⟨slot, found, ranUse⟩
  · exact develops_of_inert rfl rfl
  · exact uses slot (Registry.mem_of_slot? found) ranUse

theorem withOwnSlot_develops {use : Slot → Run V (Reaction V)}
    (uses : ∀ slot ∈ session.registry.slots, use slot (before, session) = (value, after, left) →
      (Scene.of held (before, session)).Develops (.of held (after, left)))
    (ran : withOwnSlot name use (before, session) = (value, after, left)) :
    (Scene.of held (before, session)).Develops (.of held (after, left)) := by
  refine withSlot_develops (fun slot member ranUse => ?_) ran
  split at ranUse
  · exact uses slot member ranUse
  · cases ranUse
    exact develops_of_inert rfl rfl

end Scenario

end NetSwitch
