import NetSwitch.Proofs.Mirror.Plugin
import NetSwitch.Proofs.Mirror.Session

/-! Programs on a machine and on its mirror: they go the same way, and their actions answer the same
but for how many descriptors are open. -/

namespace NetSwitch

namespace Mirror.Kernels

variable {mirror : Mirror} {kernel kernel' : Kernel}

theorem count (kernels : mirror.Kernels kernel kernel') :
    kernel'.descriptors.length = kernel.descriptors.length + mirror.beside.length := by
  have parts := List.length_eq_length_filter_add (l := kernel'.descriptors)
    fun opening => !mirror.skips opening.1
  simp only [Bool.not_not] at parts
  rw [parts, kernels.descriptors, kernels.beside, List.length_map]

theorem putFile (kernels : mirror.Kernels kernel kernel') (path : Path) (node : Kernel.Node) :
    mirror.Kernels (kernel.putFile path node) (kernel'.putFile path node) :=
  { kernels with files := by simp only [Kernel.putFile, kernels.files] }

theorem removeFile (kernels : mirror.Kernels kernel kernel') (path : Path) :
    mirror.Kernels (kernel.removeFile path) (kernel'.removeFile path) :=
  { kernels with files := by simp only [Kernel.removeFile, kernels.files] }

theorem arm (kernels : mirror.Kernels kernel kernel') (fault : Kernel.Fault) :
    mirror.Kernels (kernel.arm fault) (kernel'.arm fault) :=
  { kernels with faults := by simp only [Kernel.arm, kernels.faults] }

theorem disarm (kernels : mirror.Kernels kernel kernel') :
    mirror.Kernels kernel.disarm kernel'.disarm :=
  { kernels with faults := rfl }

end Mirror.Kernels

open Scenario

abbrev Mirror.session (mirror : Mirror) : Session V → Session V :=
  Session.renumbered mirror.toRenumbering mirror.beside.length

abbrev Mirror.yield (mirror : Mirror) : Yield V → Yield V :=
  Yield.renumbered mirror.toRenumbering

abbrev Mirror.Runs (mirror : Mirror) (Answers : α → β → Prop) (run : Run V α) (run' : Run V β) : Prop :=
  mirror.Tasks (mirror.session · = ·) Answers run run'

/-- Runs that are in step and react the same, but for how many descriptors are open. -/
abbrev Mirror.Reacts (mirror : Mirror) (run run' : Run V (Reaction V)) : Prop :=
  mirror.Runs (Reaction.raised mirror.beside.length · = ·) run run'

namespace Mirror

variable {mirror : Mirror} {name : String}

theorem owning_yield : mirror.Owning (mirror.yield (V := V) · = ·) := by
  rintro value _ rfl
  cases value <;> rfl

/-! ### The session -/

theorem registry : mirror.Runs (Registry.renumbered mirror.toRenumbering · = ·)
    (Run.registry : Run V _) Run.registry := by
  rintro ⟨machine, session⟩ ⟨machine', _⟩ ⟨machines, rfl⟩
  exact ⟨rfl, machines, rfl⟩

theorem modifyRegistry {change change' : Registry → Registry}
    (apart : ∀ registry, change' (registry.renumbered mirror.toRenumbering) =
      (change registry).renumbered mirror.toRenumbering) :
    mirror.Runs Eq (Run.modifyRegistry change : Run V _) (Run.modifyRegistry change') := by
  rintro ⟨machine, session⟩ ⟨machine', _⟩ ⟨machines, rfl⟩
  exact ⟨rfl, machines, congrArg (Session.mk · _) (apart session.registry).symm⟩

theorem inner : mirror.Runs (raisedInner mirror.beside.length · = ·)
    (Run.inner : Run V _) Run.inner := by
  rintro ⟨machine, session⟩ ⟨machine', _⟩ ⟨machines, rfl⟩
  exact ⟨rfl, machines, rfl⟩

theorem setInner (answers : Option (List (Answer V))) :
    mirror.Runs Eq (Run.setInner answers)
      (Run.setInner (raisedInner mirror.beside.length answers)) := by
  rintro ⟨machine, session⟩ ⟨machine', _⟩ ⟨machines, rfl⟩
  exact ⟨rfl, machines, rfl⟩

theorem answer (content : Content V) :
    mirror.Reacts (answer content) (answer (content.raised mirror.beside.length)) :=
  .pure rfl

theorem react {outcome : Except Error α} {outcome' : Except Error β} {Alike : α → β → Prop}
    {content : α → Content V} {content' : β → Content V} (answered : Answered Alike outcome outcome')
    (contents : ∀ {value value'}, Alike value value' →
      content' value' = (content value).raised mirror.beside.length) :
    (react outcome content).raised mirror.beside.length = react outcome' content' := by
  cases answered with
  | ok alike => simp only [Scenario.react, Reaction.raised, contents alike]
  | error e => rfl

theorem exchange {change change' : Registry → Option Handle × Registry}
    (apart : ∀ registry, change' (registry.renumbered mirror.toRenumbering) =
      Prod.map (Option.map mirror.handle) (Registry.renumbered mirror.toRenumbering)
        (change registry)) :
    mirror.Runs Eq (exchange change : Run V _) (exchange change') := by
  refine .bind registry fun registry _ same => ?_
  subst same
  rw [apart]
  obtain ⟨released, exchanged⟩ := change registry
  refine .bind (modifyRegistry fun _ => rfl) fun _ _ _ => ?_
  cases released with
  | none => exact .pure rfl
  | some handle => exact ofOp (drop handle)

theorem hold (handle : Handle) :
    mirror.Runs Eq (hold name handle : Run V _) (hold name (mirror.handle handle)) :=
  exchange fun _ => Registry.place_renumbered

theorem holdNew {op op' : Op (Except Error Handle)}
    (ops : mirror.Ops (Answered (mirror.handle · = ·)) op op') :
    mirror.Reacts (holdNew name op : Run V _) (holdNew name op') := by
  refine .bind (ofOp ops) fun _ _ answered => ?_
  cases answered with
  | @ok handle _ same =>
      subst same
      refine .bind (hold handle) fun _ _ _ => .pure ?_
      simp only [Scenario.react, Reaction.raised, Content.raised, Info.of_renumbered]
  | error e => exact .pure rfl

theorem withSlot {use use' : Slot → Run V (Reaction V)}
    (uses : ∀ slot, mirror.Reacts (use slot) (use' (slot.renumbered mirror.toRenumbering))) :
    mirror.Reacts (withSlot name use) (withSlot name use') := by
  refine .bind registry fun registry _ same => ?_
  subst same
  rw [Registry.slot?_renumbered]
  cases registry.slot? name with
  | none => exact answer _
  | some slot => exact uses slot

theorem withOwnSlot {use use' : Slot → Run V (Reaction V)}
    (uses : ∀ slot, mirror.Reacts (use slot) (use' (slot.renumbered mirror.toRenumbering))) :
    mirror.Reacts (withOwnSlot name use) (withOwnSlot name use') := by
  refine withSlot fun slot => ?_
  have lent : (slot.renumbered mirror.toRenumbering).lent = slot.lent := rfl
  rw [lent]
  split
  · exact uses slot
  · exact answer _

theorem closeSlot (slot : Slot) :
    mirror.Reacts (closeSlot slot : Run V _) (closeSlot (slot.renumbered mirror.toRenumbering)) := by
  have closing (slot : Slot) : { slot.renumbered mirror.toRenumbering with
        handle := (slot.renumbered mirror.toRenumbering).handle.closed } =
      Slot.renumbered mirror.toRenumbering { slot with handle := slot.handle.closed } := rfl
  refine .bind (ofOp (closeHandle slot.handle)) fun _ _ answered => ?_
  refine .bind (modifyRegistry fun _ => Registry.update_renumbered closing) fun _ _ _ => ?_
  exact .pure (react answered fun _ => rfl)

theorem dropSlot (slot : Slot) :
    mirror.Reacts (dropSlot slot : Run V _) (dropSlot (slot.renumbered mirror.toRenumbering)) := by
  refine .bind (modifyRegistry fun _ => Registry.remove_renumbered) fun _ _ _ => ?_
  exact .bind (ofOp (drop slot.handle)) fun _ _ _ => answer _

theorem lending {slot : Slot} {Alike : α → β → Prop} {run : Run V α} {run' : Run V β}
    (runs : mirror.Runs Alike run run') :
    mirror.Runs Alike (lending slot run) (lending (slot.renumbered mirror.toRenumbering) run') := by
  refine .bind (modifyRegistry fun _ => Registry.lend_renumbered) fun _ _ _ => ?_
  refine .bind runs fun _ _ alike => ?_
  exact .bind (exchange fun _ => Registry.takeBack_renumbered) fun _ _ _ => .pure alike

/-! ### Actions -/

theorem actOnDevice (device : Device) (action : DeviceAction) :
    mirror.Reacts (actOnDevice device action : Run V _) (actOnDevice device action) := by
  cases action with
  | set state =>
      exact .bind (ofOp (bring device state)) fun _ _ answered => .pure (react answered fun _ => rfl)
  | query =>
      refine .bind (ofOp (state device)) fun _ _ answered => .pure (react answered fun same => ?_)
      subst same
      rfl

theorem invokePlugin (request : Plugin.Request) (stdin : Bytes) :
    mirror.Reacts (invokePlugin request stdin : Run V _) (invokePlugin request stdin) := by
  refine .bind (ofOp (plugin request stdin)) fun _ _ answered => ?_
  rcases answered with ⟨⟨⟩⟩ | e <;> exact answer _

theorem change {f f' : Kernel → Kernel}
    (changes : ∀ {kernel kernel'}, mirror.Kernels kernel kernel' → mirror.Kernels (f kernel) (f' kernel')) :
    mirror.Reacts (change f : Run V _) (change f') :=
  .bind (ofOp (modifyKernel changes)) fun _ _ _ => answer _

theorem changeFile {path : Path} {f f' : Kernel → Kernel}
    (changes : ∀ {kernel kernel'}, mirror.Kernels kernel kernel' → mirror.Kernels (f kernel) (f' kernel')) :
    mirror.Reacts (changeFile path f : Run V _) (changeFile path f') := by
  refine .bind (ofOp kernel) fun kernel kernel' kernels => ?_
  refine .bind (ofOp (modifyKernel changes)) fun _ _ _ => ?_
  rw [kernels.hasFile]
  exact answer _

theorem observe (content : Content V) :
    mirror.Runs (Answer.raised mirror.beside.length · = ·) (observe content)
      (observe (content.raised mirror.beside.length)) := by
  refine .bind (ofOp thread) fun thread _ same => ?_
  subst same
  refine .bind (ofOp kernel) fun kernel kernel' kernels => .pure ?_
  rw [kernels.count]
  rfl

/-! ### Switches -/

theorem endWith (ending : Ending V) :
    mirror.Ops (Ended (mirror.yield · = ·)) (endWith ending) (endWith ending) := by
  cases ending with
  | value value => exact .pure (.returned rfl)
  | failure failure => exact .pure (.failed failure)
  | panic payload => exact .pure (.unwound payload)
  | opened path name =>
      refine .bind (openPath path) fun _ _ answered => ?_
      rcases answered with ⟨⟨⟩⟩ | e
      · exact .pure (.returned rfl)
      · exact .pure (.failed _)

theorem conclude (ending : Ending V) (flow : Flow V) :
    mirror.Ops (Ended (mirror.yield · = ·)) (conclude ending flow) (conclude ending flow) := by
  cases flow with
  | returned => exact endWith ending
  | failed failure => exact .pure (.failed failure)
  | unwound payload => exact .pure (.unwound payload)

/-- Programs that are in step end the same way, and their actions answer the same, but for how many
descriptors are open. -/
abbrev Programs (mirror : Mirror) (run run' : Run V (List (Answer V) × Flow V)) : Prop :=
  mirror.Runs (Prod.map (raisedAll mirror.beside.length) id · = ·) run run'

theorem programBody {ending : Ending V} {run run' : Handle → Run V (List (Answer V) × Flow V)}
    (programs : ∀ home, mirror.Programs (run home) (run' (mirror.handle home))) :
    mirror.Bodies (mirror.session · = ·) (mirror.yield · = ·) (programBody ending run)
      (programBody ending run') := by
  intro home
  refine .bind (programs home) fun result _ same => ?_
  subst same
  exact .bind (setInner (some result.1)) fun _ _ _ => ofOp (conclude ending result.2)

section Entering

variable {body body' : Switch.Body (Session V) String (Failure V) (Yield V)}

theorem enterBy {mode : Mode} {destination : Handle}
    (bodies : mirror.Bodies (mirror.session · = ·) (mirror.yield · = ·) body body') :
    mirror.Runs (Ended (mirror.yield · = ·)) (enterBy mode destination body)
      (enterBy mode (mirror.handle destination) body') := by
  cases mode with
  | here => exact run owning_yield bodies
  | onWorker => exact runOnWorker owning_yield bodies
  | detached => exact runDetached owning_yield bodies

theorem reactTo {resume : Bool} {inner : Option (List (Answer V))} {result result' : Result V}
    (ended : Ended (mirror.yield · = ·) result result') :
    mirror.Reacts (reactTo resume inner result)
      (reactTo resume (raisedInner mirror.beside.length inner) result') := by
  cases ended with
  | @returned value _ same =>
      subst same
      cases value with
      | value value => exact answer _
      | handle handle name =>
          refine .bind (hold handle) fun _ _ _ => ?_
          rw [Info.of_renumbered]
          exact answer _
  | failed failure => exact .pure rfl
  | unwound payload =>
      cases resume with
      | true => exact .pure rfl
      | false => exact answer _

theorem reactToSwitch {resume : Bool} {run run' : Run V (Result V)}
    (runs : mirror.Runs (Ended (mirror.yield · = ·)) run run') :
    mirror.Reacts (reactToSwitch resume run) (reactToSwitch resume run') := by
  refine .bind (setInner none) fun _ _ _ => .bind runs fun _ _ ended => ?_
  refine .bind inner fun inner _ same => ?_
  subst same
  exact reactTo ended

theorem runEntry {entry : Entry} {resume : Bool}
    (bodies : mirror.Bodies (mirror.session · = ·) (mirror.yield · = ·) body body') :
    mirror.Reacts (runEntry entry resume body) (runEntry entry resume body') := by
  cases entry with
  | byPath path => exact reactToSwitch (runAtPath owning_yield bodies)
  | byHandle mode name => exact withSlot fun slot => lending (reactToSwitch (enterBy bodies))

end Entering

/-! ### Programs -/

mutual

theorem action (action : Action V) (home : Option Handle) :
    mirror.Reacts (action.run home) (action.run (home.map mirror.handle)) := by
  cases action with
  | openPath path name => exact holdNew (openPath path)
  | openOwn name => exact holdNew (openPath _)
  | openProcess pid name => exact holdNew (openPath _)
  | duplicate handle name => exact withSlot fun slot => holdNew (duplicate slot.handle)
  | close handle => exact withOwnSlot closeSlot
  | drop handle => exact withOwnSlot dropSlot
  | info handle =>
      refine withSlot fun slot => ?_
      simp only [Slot.renumbered, Info.of_renumbered]
      exact answer _
  | home =>
      cases home with
      | none => exact answer _
      | some home =>
          simp only [Option.map_some, Action.run, Info.of_renumbered]
          exact answer _
  | duplicateHome name =>
      cases home with
      | none => exact answer _
      | some home => exact holdNew (duplicate home)
  | identity =>
      refine .bind (ofOp ownIdentity) fun _ _ answered => .pure (react answered fun same => ?_)
      subst same
      rfl
  | device device action => exact actOnDevice device action
  | runInside entry program ending resume =>
      exact runEntry (programBody fun home => Mirror.program program (some home))
  | thread program =>
      refine .bind (onNewThread (Mirror.program program home)) fun result _ same => ?_
      subst same
      obtain ⟨answers, flow⟩ := result
      cases flow <;> exact .pure rfl
  | plugin request stdin => exact invokePlugin request stdin
  | badPlugin error => exact answer _
  | arm fault => exact change (·.arm fault)
  | disarm => exact change (·.disarm)
  | putFile path node => exact changeFile (·.putFile path node)
  | removeFile path => exact changeFile (·.removeFile path)
  | putDevice location device => exact change (·.modifiedDevices location _)
  | removeDevice location name => exact change (·.modifiedDevices location _)
  | dropPrivilege => exact .bind (ofOp dropPrivilege) fun _ _ _ => answer _
  | unknown => exact answer _

theorem program (program : Program V) (home : Option Handle) :
    mirror.Programs (program.run home) (program.run (home.map mirror.handle)) := by
  cases program with
  | done => exact .pure rfl
  | step strict action rest =>
      refine .bind (Mirror.action action home) fun reaction _ same => ?_
      subst same
      cases reaction with
      | unwound payload => exact .pure rfl
      | answered content failure =>
          refine .bind (observe content) fun answered _ same => ?_
          subst same
          have continued : mirror.Programs
              (rest.run home >>= fun (answers, flow) => pure (answered :: answers, flow))
              (rest.run (home.map mirror.handle) >>= fun (answers, flow) =>
                pure (answered.raised mirror.beside.length :: answers, flow)) := by
            refine .bind (Mirror.program rest home) fun result _ same => ?_
            subst same
            exact .pure rfl
          cases strict with
          | false => exact continued
          | true =>
              cases failure with
              | none => exact continued
              | some failure => exact .pure rfl

end

end Mirror

end NetSwitch
