import NetSwitch.Proofs.Plugin.Ownership
import NetSwitch.Proofs.Scenario.Registry
import NetSwitch.Proofs.Scenario.Run

/-! Programs account for their handles: what a program has opened is held by it, or has been
closed. -/

namespace NetSwitch.Scenario

open Kernel (Descriptor)

instance : Owns (Session V) :=
  ⟨fun session => session.registry.handles⟩

/-- What runs while others hold handles leaves those alone and accounts for its own. -/
def Keeps (run : Run V α) (held : List Handle) : Prop :=
  ∀ ⦃origin foreign before session value after left⦄,
    Kernel.Accounts origin foreign (held ++ Owns.handles session) before.kernel →
    run (before, session) = (value, after, left) →
    Kernel.Accounts origin foreign (held ++ Owns.handles left) after.kernel

section Runs

variable {origin : Kernel} {foreign : List Descriptor} {held gives : List Handle}
variable {before after : Machine} {session left : Session V} {handle : Handle}

theorem keeps_pure {value : α} : Keeps (pure value : Run V α) held := by
  intro origin foreign before session value after left accounts ran
  cases ran
  exact accounts

theorem keeps_bind {first : Run V α} {next : α → Run V β} (keepsFirst : Keeps first held)
    (keepsNext : ∀ value, Keeps (next value) held) : Keeps (first >>= next) held := by
  intro origin foreign before session value after left accounts ran
  obtain ⟨found, ⟨middle, between⟩, ranFirst, ranNext⟩ := Task.bind_ran.mp ran
  exact keepsNext found (keepsFirst accounts ranFirst) ranNext

theorem keeps_op {op : Op α}
    (quiet : ∀ {before answer after}, op before = (answer, after) → before.Quiet after) :
    Keeps (Task.ofOp op : Run V α) held := by
  intro origin foreign before session value after left accounts ran
  obtain ⟨_, ranOp, ⟨⟩⟩ := Task.ofOp_ran.mp ran
  exact accounts.of_quiet (quiet ranOp)

/-- Handles that go into the registry are held in it afterwards, and one that comes out is
dropped. -/
theorem exchange_accounts {change : Registry → Option Handle × Registry}
    (exchanging : ∀ {registry released exchanged}, change registry = (released, exchanged) →
      (gives ++ registry.handles).Perm (released.toList ++ exchanged.handles))
    (accounts : origin.Accounts foreign (gives ++ (held ++ Owns.handles session)) before.kernel)
    (ran : exchange change (before, session) = ((), after, left)) :
    origin.Accounts foreign (held ++ Owns.handles left) after.kernel := by
  obtain ⟨same, dropping⟩ := exchange_ran ran
  have swapped : origin.Accounts foreign
      ((change session.registry).1.toList ++ (held ++ Owns.handles left)) before.kernel := by
    refine accounts.perm ?_
    calc gives ++ (held ++ session.registry.handles)
      _ |>.Perm (held ++ (gives ++ session.registry.handles)) := List.perm_append_comm_assoc ..
      _ |>.Perm (held ++ ((change session.registry).1.toList ++ (change session.registry).2.handles)) :=
        (exchanging rfl).append_left held
      _ |>.Perm ((change session.registry).1.toList ++ (held ++ (change session.registry).2.handles)) :=
        List.perm_append_comm_assoc ..
      _ |>.Perm ((change session.registry).1.toList ++ (held ++ left.registry.handles)) := by rw [same]
  cases released : (change session.registry).1 with
  | none =>
      rw [released] at swapped dropping
      subst dropping
      exact swapped
  | some handle =>
      rw [released] at swapped dropping
      exact Handle.drop_accounts swapped dropping

theorem hold_accounts {name : String}
    (accounts : origin.Accounts foreign (handle :: (held ++ Owns.handles session)) before.kernel)
    (ran : hold name handle (before, session) = ((), after, left)) :
    origin.Accounts foreign (held ++ Owns.handles left) after.kernel := by
  have given : origin.Accounts foreign ([handle] ++ (held ++ Owns.handles session)) before.kernel :=
    accounts
  exact exchange_accounts Registry.handles_place given ran

theorem holdNew_accounts {name : String} {op : Op (Except Error Handle)} {value : Reaction V}
    (makes : ∀ {answer machine}, op before = (answer, machine) →
      origin.Accounts foreign (Owns.handles answer ++ (held ++ Owns.handles session)) machine.kernel)
    (ran : holdNew name op (before, session) = (value, after, left)) :
    origin.Accounts foreign (held ++ Owns.handles left) after.kernel := by
  obtain ⟨made, ⟨machine, _⟩, ranOp, ranRest⟩ := Task.bind_ran.mp ran
  obtain ⟨_, making, ⟨⟩⟩ := Task.ofOp_ran.mp ranOp
  have joined := makes making
  cases made with
  | error e =>
      cases ranRest
      exact joined
  | ok handle =>
      obtain ⟨⟨⟩, ⟨holding, there⟩, ranHold, ranRest⟩ := Task.bind_ran.mp ranRest
      cases ranRest
      exact hold_accounts joined ranHold

theorem openNew_keeps {name : String} {path : Path} :
    Keeps (holdNew name (Handle.openPath path) : Run V _) held := by
  intro origin foreign before session value after left accounts ran
  exact holdNew_accounts (Handle.openPath_accounts accounts) ran

theorem withSlot_accounts {name : String} {use : Slot → Run V (Reaction V)} {value : Reaction V}
    (uses : ∀ slot ∈ session.registry.slots, use slot (before, session) = (value, after, left) →
      origin.Accounts foreign (held ++ Owns.handles left) after.kernel)
    (accounts : origin.Accounts foreign (held ++ Owns.handles session) before.kernel)
    (ran : withSlot name use (before, session) = (value, after, left)) :
    origin.Accounts foreign (held ++ Owns.handles left) after.kernel := by
  rcases withSlot_ran ran with ⟨-, -, rfl, rfl⟩ | ⟨slot, found, ranUse⟩
  · exact accounts
  · exact uses slot (Registry.mem_of_slot? found) ranUse

theorem withOwnSlot_accounts {name : String} {use : Slot → Run V (Reaction V)} {value : Reaction V}
    (uses : ∀ slot ∈ session.registry.slots, use slot (before, session) = (value, after, left) →
      origin.Accounts foreign (held ++ Owns.handles left) after.kernel)
    (accounts : origin.Accounts foreign (held ++ Owns.handles session) before.kernel)
    (ran : withOwnSlot name use (before, session) = (value, after, left)) :
    origin.Accounts foreign (held ++ Owns.handles left) after.kernel := by
  refine withSlot_accounts (fun slot member ranUse => ?_) accounts ran
  split at ranUse
  · exact uses slot member ranUse
  · cases ranUse
    exact accounts

theorem closeSlot_accounts {slot : Slot} {value : Reaction V} (member : slot ∈ session.registry.slots)
    (accounts : origin.Accounts foreign (held ++ Owns.handles session) before.kernel)
    (ran : closeSlot slot (before, session) = (value, after, left)) :
    origin.Accounts foreign (held ++ Owns.handles left) after.kernel := by
  obtain ⟨closed, ⟨machine, _⟩, ranClose, ranRest⟩ := Task.bind_ran.mp ran
  obtain ⟨_, closing, ⟨⟩⟩ := Task.ofOp_ran.mp ranClose
  obtain ⟨⟨⟩, ⟨set, there⟩, ranSet, ranRest⟩ := Task.bind_ran.mp ranRest
  cases ranRest
  cases ranSet
  have apart : origin.Accounts foreign
      (slot.handle :: (held ++ (session.registry.remove slot.key).handles)) before.kernel :=
    accounts.perm (((Registry.handles_remove member).append_left held).trans List.perm_middle)
  have closedOne : Handle.descriptors [slot.handle.closed] = [] := rfl
  have gone := Handle.close_accounts apart closing
  refine ⟨gone.grown, gone.opened.trans (List.Perm.append_left foreign ?_)⟩
  refine List.Perm.trans ?_ (((Registry.handles_closed member).append_left held).filterMap _).symm
  simp only [Handle.descriptors, List.filterMap_append, List.filterMap_cons, Handle.closed]
  exact .rfl

theorem dropSlot_accounts {slot : Slot} {value : Reaction V} (member : slot ∈ session.registry.slots)
    (accounts : origin.Accounts foreign (held ++ Owns.handles session) before.kernel)
    (ran : dropSlot slot (before, session) = (value, after, left)) :
    origin.Accounts foreign (held ++ Owns.handles left) after.kernel := by
  obtain ⟨⟨⟩, ⟨set, there⟩, ranSet, ranRest⟩ := Task.bind_ran.mp ran
  obtain ⟨⟨⟩, ⟨machine, _⟩, ranDrop, ranRest⟩ := Task.bind_ran.mp ranRest
  cases ranRest
  cases ranSet
  obtain ⟨_, dropping, ⟨⟩⟩ := Task.ofOp_ran.mp ranDrop
  have apart : origin.Accounts foreign
      (slot.handle :: (held ++ (session.registry.remove slot.key).handles)) before.kernel :=
    accounts.perm (((Registry.handles_remove member).append_left held).trans List.perm_middle)
  exact Handle.drop_accounts apart dropping

theorem actOnDevice_keeps {device : Device} {action : DeviceAction} :
    Keeps (actOnDevice device action : Run V _) held := by
  cases action with
  | set state => exact keeps_bind (keeps_op fun ran => (Device.bring_ran ran).1) fun _ => keeps_pure
  | query => exact keeps_bind (keeps_op fun ran => (Device.state_ran ran).1) fun _ => keeps_pure

theorem invokePlugin_keeps {request : Plugin.Request} {stdin : Bytes} :
    Keeps (invokePlugin request stdin : Run V _) held := by
  refine keeps_bind ?_ fun answer => ?_
  · intro origin foreign before session value after left accounts ran
    obtain ⟨_, ranPlugin, ⟨⟩⟩ := Task.ofOp_ran.mp ran
    exact Plugin.run_accounts accounts ranPlugin
  · cases answer <;> exact keeps_pure

theorem observe_keeps {content : Content V} : Keeps (observe content) held := by
  intro origin foreign before session value after left accounts ran
  cases ran
  exact accounts

theorem onNewThread_keeps {run : Run V α} (keeps : Keeps run held) :
    Keeps (Task.onNewThread run) held := by
  intro origin foreign before session value after left accounts ran
  obtain ⟨worker, ranRun, rfl⟩ := Task.onNewThread_ran ran
  have worked : origin.Accounts foreign (held ++ Owns.handles left) worker.kernel := by
    refine keeps ?_ ranRun
    exact accounts
  exact worked

/-- Changes of the kernel that have nothing to do with descriptors. -/
def Apart (f : Kernel → Kernel) : Prop :=
  ∀ kernel, (f kernel).descriptors = kernel.descriptors ∧ (f kernel).made = kernel.made ∧
    (f kernel).trace = kernel.trace

theorem modifyKernel_keeps {f : Kernel → Kernel} (apart : Apart f) :
    Keeps (Task.ofOp (Op.modifyKernel f) : Run V _) held := by
  intro origin foreign before session value after left accounts ran
  cases ran
  obtain ⟨descriptors, made, trace⟩ := apart before.kernel
  exact accounts.of_tables descriptors (.of_eq descriptors made trace)

theorem change_keeps {f : Kernel → Kernel} (apart : Apart f) :
    Keeps (change f : Run V _) held :=
  keeps_bind (modifyKernel_keeps apart) fun _ => keeps_pure

theorem changeFile_keeps {path : Path} {f : Kernel → Kernel} (apart : Apart f) :
    Keeps (changeFile path f : Run V _) held := by
  refine keeps_bind (keeps_op ?_) fun kernel =>
    keeps_bind (modifyKernel_keeps apart) fun _ => keeps_pure
  intro before answer after ran
  cases ran
  exact .refl _

/-! ### Code inside a namespace -/

theorem conclude_accounts {handles : List Handle} {ending : Ending V} {flow : Flow V}
    {result : Result V} (accounts : origin.Accounts foreign handles before.kernel)
    (ran : conclude ending flow before = (result, after)) :
    origin.Accounts foreign (Owns.handles result ++ handles) after.kernel := by
  cases flow with
  | failed failure =>
      cases ran
      exact accounts
  | unwound payload =>
      cases ran
      exact accounts
  | returned value =>
      cases ending with
      | opened path name =>
          obtain ⟨made, middle, ranOpen, ranRest⟩ := Op.bind_ran.mp ran
          have joined := Handle.openPath_accounts accounts ranOpen
          cases made <;> cases ranRest <;> exact joined
      | _ =>
          cases ran
          exact accounts

theorem programBody_accountable {ending : Ending V}
    {run : Handle → Run V (List (Answer V) × Flow V)}
    (keeps : ∀ home, Keeps (run home) (home :: held)) :
    (programBody ending run).Accountable held := by
  intro origin foreign home before own outcome after rest accounts ran
  obtain ⟨answers, flow, last, there, ranRun, concluding, rfl⟩ := programBody_ran ran
  have done := keeps home accounts ranRun
  exact conclude_accounts done concluding

theorem enterBy_accounts {mode : Mode} {destination : Handle}
    {body : Switch.Body (Session V) String (Failure V) (Yield V)} {result : Result V}
    (accountable : ∀ more, body.Accountable (more ++ held))
    (accounts : origin.Accounts foreign (held ++ Owns.handles session) before.kernel)
    (backed : destination.Backed before.kernel)
    (ran : enterBy mode destination body (before, session) = (result, after, left)) :
    origin.Accounts foreign (Owns.handles result ++ (held ++ Owns.handles left)) after.kernel := by
  cases mode with
  | here => exact Switch.run_accounts (accountable []) accounts backed ran
  | onWorker => exact Switch.runOnWorker_accounts (accountable []) accounts backed ran
  | detached =>
      exact Switch.runDetached_accounts (fun copy => accountable [copy]) accounts backed ran

theorem reactTo_accounts {resume : Bool} {inner : Option (List (Answer V))} {result : Result V}
    {value : Reaction V}
    (accounts : origin.Accounts foreign (Owns.handles result ++ (held ++ Owns.handles session))
      before.kernel)
    (ran : reactTo resume inner result (before, session) = (value, after, left)) :
    origin.Accounts foreign (held ++ Owns.handles left) after.kernel := by
  rcases result with (_ | ⟨handle, name⟩) | failure | payload
  · cases ran
    exact accounts
  · obtain ⟨⟨⟩, ⟨machine, _⟩, ranHold, ranRest⟩ := Task.bind_ran.mp ran
    cases ranRest
    exact hold_accounts accounts ranHold
  · cases ran
    exact accounts
  · cases resume <;> cases ran <;> exact accounts

theorem reactToSwitch_accounts {resume : Bool} {run : Run V (Result V)} {value : Reaction V}
    (runs : ∀ {result machine there},
      run (before, { session with inner := none }) = (result, machine, there) →
      origin.Accounts foreign (Owns.handles result ++ (held ++ Owns.handles there)) machine.kernel)
    (ran : reactToSwitch resume run (before, session) = (value, after, left)) :
    origin.Accounts foreign (held ++ Owns.handles left) after.kernel := by
  obtain ⟨result, machine, there, ranRun, ranReact⟩ := reactToSwitch_ran ran
  exact reactTo_accounts (runs ranRun) ranReact

theorem runEntry_keeps {entry : Entry} {resume : Bool}
    {body : Switch.Body (Session V) String (Failure V) (Yield V)}
    (accountable : ∀ more, body.Accountable (more ++ held)) :
    Keeps (runEntry entry resume body) held := by
  intro origin foreign before session value after left accounts ran
  cases entry with
  | byPath path =>
      refine reactToSwitch_accounts (fun ranSwitch => ?_) ran
      refine Switch.runAtPath_accounts (fun destination => accountable [destination]) ?_ ranSwitch
      exact accounts
  | byHandle mode name =>
      refine withSlot_accounts (fun slot member ranUse => ?_) accounts ran
      obtain ⟨machine, last, ranSwitch, ranBack⟩ := lending_ran ranUse
      have backed := accounts.backed (List.mem_append_right held (Registry.mem_handles member))
      have lent : origin.Accounts foreign (held ++ (session.registry.lend slot.key).handles)
          before.kernel := by
        rw [Registry.handles_lend]
        exact accounts
      have done : origin.Accounts foreign ([] ++ (held ++ Owns.handles last)) machine.kernel := by
        refine reactToSwitch_accounts (fun ranEnter => ?_) ranSwitch
        refine enterBy_accounts accountable ?_ backed ranEnter
        exact lent
      exact exchange_accounts Registry.handles_takeBack done ranBack

end Runs

/-! ### Programs -/

mutual

/-- Every action accounts for its handles, if the handle of where its thread came from is among
those that others hold. -/
theorem Action.run_keeps (action : Action V) {home : Option Handle} {held : List Handle}
    (inner : ∀ handle ∈ home, handle ∈ held) : Keeps (action.run home) held := by
  intro origin foreign before session value after left accounts ran
  cases action with
  | openPath path name => exact openNew_keeps accounts ran
  | openOwn name => exact openNew_keeps accounts ran
  | openProcess pid name => exact openNew_keeps accounts ran
  | duplicate handle name =>
      refine withSlot_accounts (fun slot member ranUse => ?_) accounts ran
      have backed := accounts.backed (List.mem_append_right held (Registry.mem_handles member))
      exact holdNew_accounts (Handle.duplicate_accounts accounts backed) ranUse
  | close handle =>
      exact withOwnSlot_accounts (fun slot member => closeSlot_accounts member accounts) accounts ran
  | drop handle =>
      exact withOwnSlot_accounts (fun slot member => dropSlot_accounts member accounts) accounts ran
  | info handle =>
      exact withSlot_accounts (fun slot member => keeps_pure accounts) accounts ran
  | home => cases home <;> exact keeps_pure accounts ran
  | duplicateHome name =>
      cases home with
      | none => exact keeps_pure accounts ran
      | some home =>
          have backed := accounts.backed (List.mem_append_left _ (inner home rfl))
          exact holdNew_accounts (Handle.duplicate_accounts accounts backed) ran
  | identity =>
      exact keeps_bind (keeps_op ownIdentity_quiet) (fun _ => keeps_pure) accounts ran
  | device device action => exact actOnDevice_keeps accounts ran
  | runInside entry program ending resume =>
      refine runEntry_keeps (fun more => programBody_accountable fun home => ?_) accounts ran
      exact program.run_keeps fun handle inner => by
        cases inner
        exact List.mem_cons_self ..
  | thread program =>
      exact keeps_bind (onNewThread_keeps (program.run_keeps inner)) (fun _ => keeps_pure)
        accounts ran
  | plugin request stdin => exact invokePlugin_keeps accounts ran
  | badPlugin error => exact keeps_pure accounts ran
  | arm fault =>
      have apart : Apart (·.arm fault) := fun _ => ⟨rfl, rfl, rfl⟩
      exact change_keeps apart accounts ran
  | disarm =>
      have apart : Apart (·.disarm) := fun _ => ⟨rfl, rfl, rfl⟩
      exact change_keeps apart accounts ran
  | putFile path node =>
      have apart : Apart (·.putFile path node) := fun _ => ⟨rfl, rfl, rfl⟩
      exact changeFile_keeps apart accounts ran
  | removeFile path =>
      have apart : Apart (·.removeFile path) := fun _ => ⟨rfl, rfl, rfl⟩
      exact changeFile_keeps apart accounts ran
  | putDevice location device =>
      have apart : Apart (·.putDevice location device) := fun _ => ⟨rfl, rfl, rfl⟩
      exact change_keeps apart accounts ran
  | removeDevice location name =>
      have apart : Apart (·.removeDevice location name) := fun _ => ⟨rfl, rfl, rfl⟩
      exact change_keeps apart accounts ran
  | dropPrivilege =>
      cases ran
      exact accounts
  | unknown => exact keeps_pure accounts ran

theorem Program.run_keeps (program : Program V) {home : Option Handle} {held : List Handle}
    (inner : ∀ handle ∈ home, handle ∈ held) : Keeps (program.run home) held := by
  cases program with
  | done => exact keeps_pure
  | step strict action rest =>
      refine keeps_bind (action.run_keeps inner) fun reaction => ?_
      cases reaction with
      | unwound payload => exact keeps_pure
      | answered content failure =>
          refine keeps_bind observe_keeps fun answered => ?_
          have continued : Keeps (rest.run home >>= fun (answers, flow) =>
              pure (answered :: answers, flow)) held :=
            keeps_bind (rest.run_keeps inner) fun _ => keeps_pure
          cases strict <;> cases failure
          all_goals first | exact keeps_pure | exact continued

end

end NetSwitch.Scenario
