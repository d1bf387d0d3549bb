import NetSwitch.Proofs.Scenario.Origin
import NetSwitch.Proofs.Scenario.Worker

/-! A thread that has code run by a worker is not touched by it, and the handle that it lends is open
afterwards if it was before.
-/

namespace NetSwitch

open Kernel (Descriptor)

/-! ### The thread that waits -/

namespace Switch

variable [OfError ε] [Owns α] {destination : Handle} {body : Body σ π ε α}
variable {before after : Machine} {own rest : σ} {outcome : Outcome π ε α}

theorem runOnWorker_thread
    (ran : runOnWorker destination body (before, own) = (outcome, after, rest)) :
    after.thread = before.thread := by
  rcases runOnWorker_ran.mp ran with ⟨e, spawning, -⟩ | ⟨ready, worker, spawning, -, rfl⟩
  · exact (spawnFor_quiet spawning).thread
  · exact (spawnFor_quiet spawning).thread

theorem runDetached_thread
    (ran : runDetached destination body (before, own) = (outcome, after, rest)) :
    after.thread = before.thread := by
  rcases runDetached_ran.mp ran with ⟨e, copying, -⟩ |
    ⟨copy, copied, e, spawned, copying, spawning, dropping, -⟩ |
    ⟨copy, copied, ready, inner, left, closing, worker, copying, spawning, -, -, -, rfl⟩
  · exact (Handle.duplicate_trails copying).thread
  · calc after.thread
      _ = spawned.thread := (Handle.drop_trails dropping).thread
      _ = copied.thread := (spawnFor_quiet spawning).thread
      _ = before.thread := (Handle.duplicate_trails copying).thread
  · exact (spawnFor_quiet spawning).thread.trans (Handle.duplicate_trails copying).thread

end Switch

/-! ### The handle that is lent -/

/-- A handle that was open is open on what it was open on. -/
def Handle.Remains (handle : Handle) (before after : Kernel) : Prop :=
  ∀ descriptor ∈ handle.descriptor?, descriptor ∈ after.opened ∧
    after.object? descriptor = before.object? descriptor

theorem Kernel.Accounts.remains {before after : Kernel} {foreign : List Descriptor}
    {handles : List Handle} {handle : Handle} (accounts : before.Accounts foreign handles after)
    (backed : handle.Backed before) (member : handle ∈ handles) : handle.Remains before after := by
  intro descriptor owned
  have isOpen := accounts.backed member descriptor owned
  exact ⟨isOpen, accounts.grown.object?_of_opened (backed descriptor owned) isOpen⟩

namespace Scenario

/-- What is lent when something runs is there afterwards as it was. -/
def KeepsLent (run : Run V α) : Prop :=
  ∀ ⦃before session value after left⦄, run (before, session) = (value, after, left) →
    session.registry.Honours left.registry

section Runs

variable {run : Run V α} {name : String} {slot : Slot}

theorem keepsLent_of_inert (inert : Inert run) : KeepsLent run := by
  intro before session value after left ran
  rw [(inert ran).2]
  exact .refl _

theorem keepsLent_pure {value : α} : KeepsLent (pure value : Run V α) :=
  keepsLent_of_inert inert_pure

theorem keepsLent_op {op : Op α} : KeepsLent (Task.ofOp op : Run V α) := by
  intro before session value after left ran
  cases ran
  exact .refl _

theorem keepsLent_bind {next : α → Run V β} (keeps : KeepsLent run)
    (keepsNext : ∀ value, KeepsLent (next value)) : KeepsLent (run >>= next) := by
  intro before session value after left ran
  obtain ⟨found, ⟨middle, between⟩, ranFirst, ranNext⟩ := Task.bind_ran.mp ran
  exact (keeps ranFirst).trans (keepsNext found ranNext)

theorem hold_keepsLent {handle : Handle} : KeepsLent (hold name handle : Run V Unit) := by
  intro before session value after left ran
  rw [(exchange_ran ran).1]
  exact .place

theorem holdNew_keepsLent {op : Op (Except Error Handle)} : KeepsLent (holdNew name op : Run V _) := by
  refine keepsLent_bind keepsLent_op fun made => ?_
  cases made with
  | error e => exact keepsLent_bind keepsLent_pure fun _ => keepsLent_pure
  | ok handle => exact keepsLent_bind hold_keepsLent fun _ => keepsLent_pure

theorem withSlot_keepsLent {use : Slot → Run V (Reaction V)} (keeps : ∀ slot, KeepsLent (use slot)) :
    KeepsLent (withSlot name use) := by
  intro before session value after left ran
  rcases withSlot_ran ran with ⟨-, -, -, rfl⟩ | ⟨slot, -, ranUse⟩
  · exact .refl _
  · exact keeps slot ranUse

/-- What is done to the handle of a name that is not lent. -/
theorem withOwnSlot_keepsLent {use : Slot → Run V (Reaction V)}
    (honours : ∀ {slot before session value after left}, slot ∈ session.registry.slots → slot.lent = 0 →
      use slot (before, session) = (value, after, left) → session.registry.Honours left.registry) :
    KeepsLent (withOwnSlot name use) := by
  intro before session value after left ran
  rcases withSlot_ran ran with ⟨-, -, -, rfl⟩ | ⟨slot, found, ranUse⟩
  · exact .refl _
  · split at ranUse
    · rename_i free
      exact honours (Registry.mem_of_slot? found) free ranUse
    · exact keepsLent_pure ranUse

theorem lending_keepsLent (keeps : KeepsLent run) : KeepsLent (lending slot run) := by
  intro before session value after left ran
  obtain ⟨middle, there, ranRun, ranBack⟩ := lending_ran ran
  rw [(exchange_ran ranBack).1]
  exact .lending (keeps ranRun)

theorem onNewThread_keepsLent (keeps : KeepsLent run) : KeepsLent (Task.onNewThread run) := by
  intro before session value after left ran
  obtain ⟨worker, ranRun, -⟩ := Task.onNewThread_ran ran
  exact keeps ranRun

/-! ### Switches -/

section Switches

variable [OfError ε] [Owns α] {destination : Handle} {body : Switch.Body (Session V) π ε α}

theorem run_keepsLent (keeps : ∀ home, KeepsLent (body home)) :
    KeepsLent (Switch.run destination body) := by
  refine keepsLent_bind keepsLent_op fun entered => ?_
  cases entered with
  | error e => exact keepsLent_pure
  | ok home => exact keepsLent_bind (keeps home) fun _ => keepsLent_op

theorem runOnWorker_keepsLent (keeps : ∀ home, KeepsLent (body home)) :
    KeepsLent (Switch.runOnWorker destination body) := by
  refine keepsLent_bind keepsLent_op fun asked => ?_
  cases asked with
  | error e => exact keepsLent_pure
  | ok ready => exact onNewThread_keepsLent (run_keepsLent keeps)

theorem runDetached_keepsLent (keeps : ∀ home, KeepsLent (body home)) :
    KeepsLent (Switch.runDetached destination body) := by
  refine keepsLent_bind keepsLent_op fun copied => ?_
  cases copied with
  | error e => exact keepsLent_pure
  | ok copy =>
      refine keepsLent_bind keepsLent_op fun asked => ?_
      cases asked with
      | error e => exact keepsLent_bind keepsLent_op fun _ => keepsLent_pure
      | ok ready =>
          refine onNewThread_keepsLent (keepsLent_bind (run_keepsLent keeps) fun outcome => ?_)
          exact keepsLent_bind keepsLent_op fun _ => keepsLent_pure

theorem runAtPath_keepsLent {path : Path} (keeps : ∀ home, KeepsLent (body home)) :
    KeepsLent (Switch.runAtPath path body) := by
  refine keepsLent_bind keepsLent_op fun opened => ?_
  cases opened with
  | error e => exact keepsLent_pure
  | ok destination => exact keepsLent_bind (run_keepsLent keeps) fun _ => keepsLent_op

end Switches

variable {body : Switch.Body (Session V) String (Failure V) (Yield V)}

theorem enterBy_keepsLent {mode : Mode} {destination : Handle} (keeps : ∀ home, KeepsLent (body home)) :
    KeepsLent (enterBy mode destination body) := by
  cases mode with
  | here => exact run_keepsLent keeps
  | onWorker => exact runOnWorker_keepsLent keeps
  | detached => exact runDetached_keepsLent keeps

theorem reactTo_keepsLent {resume : Bool} {inner : Option (List (Answer V))} {result : Result V} :
    KeepsLent (reactTo resume inner result) := by
  rcases result with (_ | ⟨handle, name⟩) | failure | payload
  · exact keepsLent_pure
  · exact keepsLent_bind hold_keepsLent fun _ => keepsLent_pure
  · exact keepsLent_pure
  · cases resume <;> exact keepsLent_pure

theorem reactToSwitch_keepsLent {resume : Bool} {run : Run V (Result V)} (keeps : KeepsLent run) :
    KeepsLent (reactToSwitch resume run) := by
  intro before session value after left ran
  obtain ⟨result, middle, there, ranRun, ranReact⟩ := reactToSwitch_ran ran
  have first := keeps ranRun
  exact first.trans (reactTo_keepsLent ranReact)

theorem runEntry_keepsLent {entry : Entry} {resume : Bool} (keeps : ∀ home, KeepsLent (body home)) :
    KeepsLent (runEntry entry resume body) := by
  cases entry with
  | byPath path => exact reactToSwitch_keepsLent (runAtPath_keepsLent keeps)
  | byHandle mode name =>
      exact withSlot_keepsLent fun slot =>
        lending_keepsLent (reactToSwitch_keepsLent (enterBy_keepsLent keeps))

theorem programBody_keepsLent {ending : Ending V} {run : Handle → Run V (List (Answer V) × Flow V)}
    (keeps : ∀ home, KeepsLent (run home)) (home : Handle) :
    KeepsLent (programBody ending run home) := by
  refine keepsLent_bind (keeps home) fun result => keepsLent_bind ?_ fun _ => keepsLent_op
  intro before session value after left ran
  cases ran
  exact .refl _

end Runs

mutual

/-- No action touches what is lent: it closes and drops what is not, and gives back what it lends. -/
theorem Action.run_keepsLent (action : Action V) (home : Option Handle) :
    KeepsLent (action.run home) := by
  cases action with
  | openPath path name => exact holdNew_keepsLent
  | openOwn name => exact holdNew_keepsLent
  | openProcess pid name => exact holdNew_keepsLent
  | duplicate handle name => exact withSlot_keepsLent fun slot => holdNew_keepsLent
  | close handle =>
      refine withOwnSlot_keepsLent fun {slot before session value after left} member free ran => ?_
      obtain ⟨closed, ⟨machine, _⟩, ranClose, ranRest⟩ := Task.bind_ran.mp ran
      obtain ⟨_, closing, ⟨⟩⟩ := Task.ofOp_ran.mp ranClose
      cases ranRest
      exact .update member free
  | drop handle =>
      refine withOwnSlot_keepsLent fun {slot before session value after left} member free ran => ?_
      cases ran
      exact .remove member free
  | info handle => exact withSlot_keepsLent fun slot => keepsLent_pure
  | home => cases home <;> exact keepsLent_pure
  | duplicateHome name =>
      cases home with
      | none => exact keepsLent_pure
      | some home => exact holdNew_keepsLent
  | identity => exact keepsLent_bind keepsLent_op fun _ => keepsLent_pure
  | device device action => exact keepsLent_of_inert actOnDevice_inert
  | runInside entry program ending resume =>
      exact runEntry_keepsLent (programBody_keepsLent fun home => program.run_keepsLent (some home))
  | thread program =>
      exact keepsLent_bind (onNewThread_keepsLent (program.run_keepsLent home)) fun _ => keepsLent_pure
  | plugin request stdin => exact keepsLent_of_inert invokePlugin_inert
  | badPlugin error => exact keepsLent_pure
  | arm fault => exact keepsLent_bind keepsLent_op fun _ => keepsLent_pure
  | disarm => exact keepsLent_bind keepsLent_op fun _ => keepsLent_pure
  | putFile path node =>
      exact keepsLent_bind keepsLent_op fun _ => keepsLent_bind keepsLent_op fun _ => keepsLent_pure
  | removeFile path =>
      exact keepsLent_bind keepsLent_op fun _ => keepsLent_bind keepsLent_op fun _ => keepsLent_pure
  | putDevice location device => exact keepsLent_bind keepsLent_op fun _ => keepsLent_pure
  | removeDevice location name => exact keepsLent_bind keepsLent_op fun _ => keepsLent_pure
  | dropPrivilege => exact keepsLent_bind keepsLent_op fun _ => keepsLent_pure
  | unknown => exact keepsLent_pure

theorem Program.run_keepsLent (program : Program V) (home : Option Handle) :
    KeepsLent (program.run home) := by
  cases program with
  | done => exact keepsLent_pure
  | step strict action rest =>
      intro before session result after left ran
      obtain ⟨reaction, ⟨middle, between⟩, ranAction, ranRest⟩ := step_ran ran
      have first := action.run_keepsLent home ranAction
      rcases reaction with ⟨content, _ | failure⟩ | payload <;> cases strict
      case answered.some.true =>
        obtain ⟨-, ⟨⟩⟩ := ranRest
        exact first
      case unwound.true | unwound.false =>
        obtain ⟨-, ⟨⟩⟩ := ranRest
        exact first
      all_goals
        obtain ⟨answers, flow, ranProgram, -⟩ := ranRest
        exact first.trans (rest.run_keepsLent home ranProgram)

end

/-! ### Workers -/

variable {before after : Machine} {session left : Session V} {result : Result V}

theorem enterBy_thread {mode : Mode} {destination : Handle}
    {body : Switch.Body (Session V) String (Failure V) (Yield V)} (elsewhere : mode ≠ .here)
    (ran : enterBy mode destination body (before, session) = (result, after, left)) :
    after.thread = before.thread := by
  cases mode with
  | here => exact absurd rfl elsewhere
  | onWorker => exact Switch.runOnWorker_thread ran
  | detached => exact Switch.runDetached_thread ran

section Programs

variable {program : Program V} {ending : Ending V} {inner : Option (List (Answer V))} {mode : Mode}
variable {foreign : List Descriptor} {scene : Scene} {registry : Registry} {slot : Slot}
variable {destination handle : Handle}

/-- A handle that is held or listed before and after code is run inside a namespace is open after it
if it was before. -/
theorem Program.body_remains (sound : scene.Sound foreign)
    (listed : registry.handles = scene.registry.handles)
    (backed : destination.Backed scene.machine.kernel)
    (ran : enterBy mode destination (program.body ending) (scene.machine, { registry, inner }) =
      (result, after, left))
    (earlier : handle ∈ scene.handles) (later : handle ∈ scene.held ++ Owns.handles left) :
    handle.Remains scene.machine.kernel after.kernel := by
  have accountable (more : List Handle) : (program.body ending).Accountable (more ++ scene.held) :=
    programBody_accountable fun home => program.run_keeps fun handle same => by
      cases same
      exact List.mem_cons_self ..
  have accounts : scene.machine.kernel.Accounts foreign
      (scene.held ++ Owns.handles ({ registry, inner } : Session V)) scene.machine.kernel := by
    change scene.machine.kernel.Accounts foreign (scene.held ++ registry.handles) _
    rw [listed]
    exact sound.accounts
  have done := enterBy_accounts accountable accounts backed ran
  exact done.remains (sound.genuine handle earlier).backed (List.mem_append_right _ later)

/-- A handle that is lent for as long as code is run with it stays in its slot, and stays open. -/
theorem Program.body_lent (sound : scene.Sound foreign) (there : slot ∈ scene.registry.slots)
    (ran : enterBy mode slot.handle (program.body ending)
      (scene.machine, { registry := scene.registry.lend slot.key, inner }) = (result, after, left)) :
    (∃ later ∈ left.registry.slots, later.key = slot.key ∧ later.handle = slot.handle) ∧
      slot.handle.Remains scene.machine.kernel after.kernel := by
  have member := Scene.mem_of_slot there
  have keeps := enterBy_keepsLent (programBody_keepsLent fun home => program.run_keepsLent (some home)) ran
  obtain ⟨later, still, key, same⟩ := keeps.lent there
  refine ⟨⟨later, still, key, same⟩, ?_⟩
  have listed : slot.handle ∈ scene.held ++ Owns.handles left := by
    rw [← same]
    exact List.mem_append_right _ (Registry.mem_handles still)
  exact Program.body_remains sound Registry.handles_lend (sound.genuine _ member).backed ran member listed

end Programs

/-- A thread that has code run by a worker is where it was, marked and privileged as it was, whatever
the code does and however it ends.  If the code is a program, the handle of its destination, which the
thread lends or holds meanwhile, is as it was and open on the same object if it was open. -/
theorem callers_isolated :
    (∀ {σ π ε α : Type} [OfError ε] [Owns α] (destination : Handle) (body : Switch.Body σ π ε α)
      {machine after : Machine} {own rest : σ} {outcome : Outcome π ε α},
      Switch.runOnWorker destination body (machine, own) = (outcome, after, rest) ∨
        Switch.runDetached destination body (machine, own) = (outcome, after, rest) →
      after.thread = machine.thread) ∧
    ∀ (caller program : Program V) (ending : Ending V) (inner : Option (List (Answer V)))
      (machine : Machine), ∀ scene ∈ caller.stage machine, ∀ mode ≠ Mode.here,
      ∀ {result : Result V} {after : Machine} {left : Session V},
      (∀ slot ∈ scene.registry.slots,
        enterBy mode slot.handle (program.body ending)
            (scene.machine, { registry := scene.registry.lend slot.key, inner }) =
          (result, after, left) →
        after.thread = scene.machine.thread ∧
          (∃ later ∈ left.registry.slots, later.key = slot.key ∧ later.handle = slot.handle) ∧
          slot.handle.Remains scene.machine.kernel after.kernel) ∧
      ∀ handle ∈ scene.held,
        enterBy mode handle (program.body ending)
            (scene.machine, { registry := scene.registry, inner }) = (result, after, left) →
        after.thread = scene.machine.thread ∧ handle.Remains scene.machine.kernel after.kernel := by
  refine ⟨fun destination body machine after own rest outcome ran =>
    ran.elim Switch.runOnWorker_thread Switch.runDetached_thread, ?_⟩
  intro caller program ending inner machine scene member mode elsewhere result after left
  have sound := caller.stage_sound machine scene member
  refine ⟨fun slot there ran => ?_, fun handle here ran => ?_⟩
  · exact ⟨enterBy_thread elsewhere ran, Program.body_lent sound there ran⟩
  · have member : handle ∈ scene.handles := List.mem_append_left _ here
    have remains := Program.body_remains sound rfl (sound.genuine handle member).backed ran member
      (List.mem_append_left _ here)
    exact ⟨enterBy_thread elsewhere ran, remains⟩

/-- A program that gives up the privilege to move back. -/
def stranding : Program Unit :=
  .step true .dropPrivilege .done

/-- Code that gives up its privilege and panics strands the thread that runs it.  If that is a worker,
the panic is all that reaches the thread that waits, which holds its handle as before. -/
theorem callers_isolated_stranding :
    let opening : Program Unit := .step true (.openPath (Bytes.ofString "/pod") "pod") .done
    let scene := (opening.stage Plugin.neighboured).getLast (List.cons_ne_nil _ _)
    let lent : Session Unit := { registry := scene.registry.lend 0 }
    let body := stranding.body (.panic "lost")
    (enterBy .here neighbour body (scene.machine, lent)).2.1.thread =
        { location := "pod", privileged := false, state := .tainted } ∧
      ∃ after left, enterBy .onWorker neighbour body (scene.machine, lent) =
          (.unwound "lost", after, left) ∧
        after.thread = { location := "host" } ∧
        (∃ later ∈ left.registry.slots, later.key = 0 ∧ later.handle = neighbour) ∧
        neighbour.Remains scene.machine.kernel after.kernel := by
  intro opening scene lent body
  refine ⟨by decide +kernel, ?_⟩
  have member : scene ∈ opening.stage Plugin.neighboured := List.getLast_mem _
  have there : ({ key := 0, name := some "pod", handle := neighbour } : Slot) ∈ scene.registry.slots := by
    decide +kernel
  have lost : (enterBy .onWorker neighbour body (scene.machine, lent)).1 = .unwound "lost" := by
    decide +kernel
  have home : scene.machine.thread = { location := "host" } := by decide +kernel
  obtain ⟨-, isolated⟩ := callers_isolated (V := Unit)
  have elsewhere : Mode.onWorker ≠ .here := by decide
  cases ran : enterBy .onWorker neighbour body (scene.machine, lent) with
  | mk result rest =>
      obtain ⟨after, left⟩ := rest
      rw [ran] at lost
      subst lost
      obtain ⟨slots, -⟩ := isolated opening stranding (.panic "lost") none Plugin.neighboured scene
        member .onWorker elsewhere
      obtain ⟨same, kept, remains⟩ := slots _ there ran
      exact ⟨after, left, rfl, same.trans home, kept, remains⟩

end Scenario

end NetSwitch
