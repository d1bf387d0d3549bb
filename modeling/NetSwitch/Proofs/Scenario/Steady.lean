import NetSwitch.Proofs.Scenario.Ownership

/-! What leaves its thread where it is: everything but a switch.  Work that a thread waits for is
done by other threads. -/

namespace NetSwitch

/-- The running thread is where it was, and is moved if it was. -/
structure Machine.Unmoved (before after : Machine) : Prop where
  state : after.thread.state = before.thread.state
  location : after.thread.location = before.thread.location

namespace Machine.Unmoved

variable {before middle after : Machine}

theorem of_thread (same : after.thread = before.thread) : before.Unmoved after :=
  ⟨congrArg Thread.state same, congrArg Thread.location same⟩

theorem refl (machine : Machine) : machine.Unmoved machine :=
  .of_thread rfl

theorem trans (first : before.Unmoved middle) (second : middle.Unmoved after) :
    before.Unmoved after :=
  ⟨second.state.trans first.state, second.location.trans first.location⟩

end Machine.Unmoved

namespace Scenario

/-- What runs leaves its thread where it is. -/
def Steady (run : Run V α) : Prop :=
  ∀ ⦃before session value after left⦄,
    run (before, session) = (value, after, left) → before.Unmoved after

section Runs

variable {handle : Handle} {name : String} {slot : Slot} {run : Run V α}

theorem steady_pure {value : α} : Steady (pure value : Run V α) := by
  intro before session value after left ran
  cases ran
  exact .refl _

theorem steady_bind {next : α → Run V β} (steady : Steady run)
    (steadyNext : ∀ value, Steady (next value)) : Steady (run >>= next) := by
  intro before session value after left ran
  obtain ⟨found, ⟨middle, between⟩, ranFirst, ranNext⟩ := Task.bind_ran.mp ran
  exact (steady ranFirst).trans (steadyNext found ranNext)

theorem steady_op {op : Op α}
    (unmoved : ∀ {before answer after}, op before = (answer, after) → before.Unmoved after) :
    Steady (Task.ofOp op : Run V α) := by
  intro before session value after left ran
  obtain ⟨_, ranOp, ⟨⟩⟩ := Task.ofOp_ran.mp ran
  exact unmoved ranOp

theorem steady_trailing {op : Op α}
    (trails : ∀ {before answer after}, op before = (answer, after) → before.Trails after) :
    Steady (Task.ofOp op : Run V α) :=
  steady_op fun ran => .of_thread (trails ran).thread

theorem steady_registry : Steady (Run.registry : Run V Registry) := by
  intro before session value after left ran
  cases ran
  exact .refl _

theorem steady_modifyRegistry {change : Registry → Registry} :
    Steady (Run.modifyRegistry change : Run V Unit) := by
  intro before session value after left ran
  cases ran
  exact .refl _

theorem exchange_steady {change : Registry → Option Handle × Registry} :
    Steady (exchange change : Run V Unit) := by
  refine steady_bind steady_registry fun registry => ?_
  refine steady_bind steady_modifyRegistry fun _ => ?_
  cases (change registry).1 with
  | none => exact steady_pure
  | some handle => exact steady_trailing Handle.drop_trails

theorem holdNew_steady {op : Op (Except Error Handle)}
    (trails : ∀ {before answer after}, op before = (answer, after) → before.Trails after) :
    Steady (holdNew name op : Run V _) := by
  refine steady_bind (steady_trailing trails) fun made => ?_
  cases made with
  | error e => exact steady_bind steady_pure fun _ => steady_pure
  | ok handle => exact steady_bind exchange_steady fun _ => steady_pure

theorem withSlot_steady {use : Slot → Run V (Reaction V)} (steady : ∀ slot, Steady (use slot)) :
    Steady (withSlot name use) := by
  refine steady_bind steady_registry fun registry => ?_
  cases registry.slot? name with
  | none => exact steady_pure
  | some slot => exact steady slot

theorem withOwnSlot_steady {use : Slot → Run V (Reaction V)} (steady : ∀ slot, Steady (use slot)) :
    Steady (withOwnSlot name use) := by
  refine withSlot_steady fun slot => ?_
  split
  · exact steady slot
  · exact steady_pure

theorem closeSlot_steady : Steady (closeSlot slot : Run V _) := by
  refine steady_bind (steady_trailing Handle.close_trails) fun closed => ?_
  exact steady_bind steady_modifyRegistry fun _ => steady_pure

theorem dropSlot_steady : Steady (dropSlot slot : Run V _) := by
  refine steady_bind steady_modifyRegistry fun _ => ?_
  exact steady_bind (steady_trailing Handle.drop_trails) fun _ => steady_pure

theorem actOnDevice_steady {device : Device} {action : DeviceAction} :
    Steady (actOnDevice device action : Run V _) := by
  cases action with
  | set state =>
      exact steady_bind (steady_trailing fun ran => (Device.bring_ran ran).1.trails) fun _ =>
        steady_pure
  | query =>
      exact steady_bind (steady_trailing fun ran => (Device.state_ran ran).1.trails) fun _ =>
        steady_pure

/-- Whatever the new thread does, it does it without moving the one that waits for it. -/
theorem onNewThread_steady : Steady (Task.onNewThread run) := by
  intro before session value after left ran
  cases ran
  exact .of_thread rfl

theorem runOnWorker_steady [OfError ε] [Owns α] {destination : Handle}
    {body : Switch.Body (Session V) π ε α} : Steady (Switch.runOnWorker destination body) := by
  refine steady_bind (steady_trailing fun ran => (Switch.spawnFor_quiet ran).trails) fun asked => ?_
  cases asked with
  | error e => exact steady_pure
  | ok _ => exact onNewThread_steady

theorem runDetached_steady [OfError ε] [Owns α] {destination : Handle}
    {body : Switch.Body (Session V) π ε α} : Steady (Switch.runDetached destination body) := by
  refine steady_bind (steady_trailing Handle.duplicate_trails) fun copied => ?_
  cases copied with
  | error e => exact steady_pure
  | ok copy =>
      refine steady_bind (steady_trailing fun ran => (Switch.spawnFor_quiet ran).trails) fun asked => ?_
      cases asked with
      | error e => exact steady_bind (steady_trailing Handle.drop_trails) fun _ => steady_pure
      | ok _ => exact onNewThread_steady

theorem change_steady {f : Kernel → Kernel} : Steady (change f : Run V _) := by
  intro before session value after left ran
  cases ran
  exact .of_thread rfl

theorem changeFile_steady {path : Path} {f : Kernel → Kernel} :
    Steady (changeFile path f : Run V _) := by
  intro before session value after left ran
  cases ran
  exact .of_thread rfl

theorem reactTo_steady {resume : Bool} {inner : Option (List (Answer V))} {result : Result V} :
    Steady (reactTo resume inner result) := by
  rcases result with (_ | ⟨handle, name⟩) | failure | payload
  · exact steady_pure
  · exact steady_bind exchange_steady fun _ => steady_pure
  · exact steady_pure
  · cases resume <;> exact steady_pure

theorem conclude_trails {ending : Ending V} {flow : Flow V} {result : Result V}
    {before after : Machine} (ran : conclude ending flow before = (result, after)) :
    before.Trails after := by
  cases flow with
  | failed failure =>
      cases ran
      exact .refl _
  | unwound payload =>
      cases ran
      exact .refl _
  | returned value =>
      cases ending with
      | opened path name =>
          obtain ⟨made, middle, ranOpen, ranRest⟩ := Op.bind_ran.mp ran
          have trails := Handle.openPath_trails ranOpen
          cases made <;> cases ranRest <;> exact trails
      | _ =>
          cases ran
          exact .refl _

theorem setInner_steady {inner : Option (List (Answer V))} : Steady (Run.setInner inner : Run V Unit) := by
  intro before session value after left ran
  cases ran
  exact .refl _

theorem inner_steady : Steady (Run.inner : Run V _) := by
  intro before session value after left ran
  cases ran
  exact .refl _

theorem observe_steady {content : Content V} : Steady (observe content) := by
  intro before session value after left ran
  cases ran
  exact .refl _

/-- Whether an action neither runs a program nor invokes the plugin. -/
def Action.Bare : Action V → Prop
  | .runInside _ _ _ _ => False
  | .thread _ => False
  | .plugin _ _ => False
  | _ => True

theorem Action.run_steady (action : Action V) (home : Option Handle) (bare : action.Bare) :
    Steady (action.run home) := by
  cases action with
  | runInside entry program ending resume => cases bare
  | thread program => cases bare
  | plugin request stdin => cases bare
  | openPath path name => exact holdNew_steady Handle.openPath_trails
  | openOwn name => exact holdNew_steady Handle.openPath_trails
  | openProcess pid name => exact holdNew_steady Handle.openPath_trails
  | duplicate handle name => exact withSlot_steady fun _ => holdNew_steady Handle.duplicate_trails
  | close handle => exact withOwnSlot_steady fun _ => closeSlot_steady
  | drop handle => exact withOwnSlot_steady fun _ => dropSlot_steady
  | info handle => exact withSlot_steady fun _ => steady_pure
  | home => cases home <;> exact steady_pure
  | duplicateHome name =>
      cases home with
      | none => exact steady_pure
      | some home => exact holdNew_steady Handle.duplicate_trails
  | identity =>
      exact steady_bind (steady_trailing fun ran => (ownIdentity_quiet ran).trails) fun _ => steady_pure
  | device device action => exact actOnDevice_steady
  | badPlugin error => exact steady_pure
  | arm fault => exact change_steady
  | disarm => exact change_steady
  | putFile path node => exact changeFile_steady
  | removeFile path => exact changeFile_steady
  | putDevice location device => exact change_steady
  | removeDevice location name => exact change_steady
  | dropPrivilege =>
      intro before session value after left ran
      cases ran
      exact ⟨rfl, rfl⟩
  | unknown => exact steady_pure

end Runs

end Scenario

end NetSwitch
