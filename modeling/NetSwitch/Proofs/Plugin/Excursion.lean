import NetSwitch.Proofs.Device.Asked
import NetSwitch.Proofs.Plugin.Run
import NetSwitch.Proofs.Switch.Course

/-! The excursion that a command of the plugin is: its thread goes into the namespace at a path,
asks for the flags of the loopback device there, and comes back.

ADD, DEL and CHECK differ in the state that they want the device to be in and in what they make
of the flags that were found.
-/

namespace NetSwitch

open Kernel (Descriptor Entry)

/-- The network namespace whose file a thread in a namespace finds at a path. -/
def Kernel.lead? (kernel : Kernel) (location : String) (path : Path) : Option String :=
  match kernel.node? location path with
  | some (.namespaceFile ⟨.network name, _, _⟩) => some name
  | _ => none

namespace Plugin

/-- The state that a command wants the device to be in. -/
def Command.desired? : Command → Option LinkState
  | .add => some .up
  | .del => some .down
  | _ => none

/-- What a command replies when it has found the device in a state. -/
def success (command : Command) (version : String) (netns : Path) (state : LinkState) :
    Except Error Reply :=
  match command, state with
  | .add, _ => .ok (.add (AddReport.loopback version netns))
  | .check, .down => .error (.checkFailed Device.loopback.name .down)
  | _, _ => .ok .empty

/-- What a command makes of an excursion. -/
def replyTo (command : Command) (version : String) (netns : Path) :
    Except NetSwitch.Error UInt16 → Except Error Reply
  | .error e => .error (.library e)
  | .ok flags => success command version netns (Device.stateOf flags)

variable {before after : Machine} {netns : Path} {desired? : Option LinkState}

/-- What an excursion comes to.  Failing to come back goes before everything else, and failing to
close the namespace after everything else. -/
def settled : Except NetSwitch.Error α → Except NetSwitch.Error Unit → Except NetSwitch.Error Unit →
    Except NetSwitch.Error α
  | _, .error e, _ => .error e
  | .error e, .ok (), _ => .error e
  | .ok _, .ok (), .error e => .error e
  | .ok value, .ok (), .ok () => .ok value

/-- An excursion to the namespace at a path, with the flags that were found or the error that is
reported. -/
inductive Excursion (netns : Path) (desired? : Option LinkState) (before after : Machine) :
    Except NetSwitch.Error UInt16 → Prop where
  | unopened (e : NetSwitch.Error) (opening : Handle.openPath netns before = (.error e, after)) :
      Excursion netns desired? before after (.error e)
  | refused (e : NetSwitch.Error) (target : Handle) (opened left : Machine)
      (closed : Except NetSwitch.Error Unit)
      (opening : Handle.openPath netns before = (.ok target, opened))
      (entering : Switch.enter target opened = (.error e, left))
      (closing : target.close left = (closed, after)) :
      Excursion netns desired? before after (.error e)
  | made (target home : Handle) (opened entered left back noted : Machine)
      (found : Except NetSwitch.Error UInt16) (restored closed : Except NetSwitch.Error Unit)
      (opening : Handle.openPath netns before = (.ok target, opened))
      (entering : Switch.enter target opened = (.ok home, entered))
      (asking : Device.Asked Device.loopback desired? entered left found)
      (restoring : Switch.restore home left = (restored, back)) (alike : back.Alike noted)
      (closing : target.close noted = (closed, after)) :
      Excursion netns desired? before after (settled found restored closed)

/-- An operation that asks for the flags of the loopback device and makes something of them. -/
def AsksFlags (op : Op (Except NetSwitch.Error α)) (desired? : Option LinkState) (value : UInt16 → α) :
    Prop :=
  ∀ before answer after, op before = (answer, after) →
    ∃ found, Device.Asked Device.loopback desired? before after found ∧ answer = found.map value

theorem state_asks : AsksFlags Device.loopback.state none Device.stateOf :=
  fun _ _ _ ran => Device.state_asked ran

theorem bring_asks (desired : LinkState) :
    AsksFlags (Device.loopback.bring desired) (some desired) fun _ => () :=
  fun _ _ _ ran => Device.bring_asked ran

section Calm

variable [Owns α] {home target : Handle} {answer : Except NetSwitch.Error α}
variable {outcome : Outcome Empty NetSwitch.Error α}

/-- Code that comes to a value without handles leaves a switch with nothing to throw away. -/
theorem leave_calm (bare : ∀ value : α, Owns.handles value = [])
    (ran : Switch.leave home (Outcome.ofExcept answer) before = (outcome, after)) :
    ∃ restored back, Switch.restore home before = (restored, back) ∧ back.Alike after ∧
      outcome = Switch.settle (Outcome.ofExcept answer) restored := by
  rcases answer with e | value
  · obtain ⟨restored, back, restoring, ranRest⟩ := Op.bind_ran.mp ran
    refine ⟨restored, back, restoring, ?_⟩
    rcases restored with failure | ⟨⟩
    · obtain ⟨⟨⟩, last, ranEmit, ranRest⟩ := Op.bind_ran.mp ranRest
      cases ranRest
      exact ⟨Op.emit_alike ranEmit, rfl⟩
    · cases ranRest
      exact ⟨.refl _, rfl⟩
  · obtain ⟨restored, back, restoring, ranRest⟩ := Op.bind_ran.mp ran
    refine ⟨restored, back, restoring, ?_⟩
    rcases restored with failure | ⟨⟩
    · obtain ⟨⟨⟩, last, ranDiscard, ranRest⟩ := Op.bind_ran.mp ranRest
      rw [discard, bare value] at ranDiscard
      cases ranDiscard
      cases ranRest
      exact ⟨.refl _, rfl⟩
    · cases ranRest
      exact ⟨.refl _, rfl⟩

theorem closeAfter_calm (bare : ∀ value : α, Owns.handles value = [])
    {last : Outcome Empty NetSwitch.Error α}
    (ran : Switch.closeAfter target outcome before = (last, after)) :
    ∃ closed, target.close before = (closed, after) ∧
      last.toExcept = settled outcome.toExcept (.ok ()) closed := by
  rcases outcome with value | e | ⟨⟨⟩⟩
  · obtain ⟨closed, middle, closing, ranRest⟩ := Op.bind_ran.mp ran
    rcases closed with e | ⟨⟩
    · obtain ⟨⟨⟩, dropped, ranDiscard, ranRest⟩ := Op.bind_ran.mp ranRest
      rw [discard, bare value] at ranDiscard
      cases ranDiscard
      cases ranRest
      exact ⟨.error e, closing, rfl⟩
    · cases ranRest
      exact ⟨.ok (), closing, rfl⟩
  · obtain ⟨closed, middle, closing, ranRest⟩ := Op.bind_ran.mp ran
    cases ranRest
    exact ⟨closed, closing, rfl⟩

theorem excursion_of_result {op : Op (Except NetSwitch.Error α)} {value : UInt16 → α}
    {answer : Except Error α} (bare : ∀ value : α, Owns.handles value = [])
    (asks : AsksFlags op desired? value)
    (ran : result (Switch.runAtPath netns (body op)) before = (answer, after)) :
    ∃ found, Excursion netns desired? before after found ∧
      answer = (found.map value).mapError .library := by
  obtain ⟨outcome, rest, ranTask, rfl⟩ := result_ran.mp ran
  rcases Switch.runAtPath_ran.mp ranTask with
    ⟨e, opening, rfl, -⟩ | ⟨target, opened, inner, left, opening, ranRun, ranClose⟩
  · exact ⟨.error e, .unopened e opening, rfl⟩
  obtain ⟨closed, closing, same⟩ := closeAfter_calm bare ranClose
  rw [same]
  rcases Switch.run_ran.mp ranRun with
    ⟨e, entering, rfl, -⟩ | ⟨home, entered, given, acted, entering, ranBody, leaving⟩
  · exact ⟨.error e, .refused e target opened left closed opening entering closing,
      rfl⟩
  · obtain ⟨told, ranOp, rfl, -⟩ := body_ran.mp ranBody
    obtain ⟨found, asking, rfl⟩ := asks _ _ _ ranOp
    obtain ⟨restored, back, restoring, alike, rfl⟩ := leave_calm bare leaving
    refine ⟨_, .made target home opened entered acted back left found restored closed opening entering
      asking restoring alike closing, ?_⟩
    rcases found with e | flags <;> rcases restored with e | ⟨⟩ <;> rcases closed with e | ⟨⟩ <;> rfl

end Calm

/-! ### Where an excursion leads and what it leaves -/

section Reached

variable {target home : Handle} {opened entered : Machine}
variable {outcome : Except NetSwitch.Error UInt16}

/-- The descriptor of a handle that was opened stands for the namespace at the path. -/
theorem network?_of_openPath (opening : Handle.openPath netns before = (.ok target, opened)) :
    ∃ goal, target.descriptor? = some goal ∧ goal ∈ opened.kernel.opened ∧
      opened.kernel.network? goal = before.kernel.lead? before.thread.location netns := by
  rcases Handle.openPath_ran opening with ⟨_, failed, -⟩ | ⟨_, goal, file, found, ⟨⟩, owns, -, makes⟩
  · cases failed
  refine ⟨goal, owns, makes.mem_opened, ?_⟩
  rw [Kernel.network?, makes.object?, Kernel.lead?, found]
  obtain ⟨leads, type, typeError⟩ := file
  cases leads <;> rfl

theorem lead_of_entered (opening : Handle.openPath netns before = (.ok target, opened))
    (entering : Switch.enter target opened = (.ok home, entered)) :
    before.kernel.lead? before.thread.location netns = some entered.thread.location := by
  obtain ⟨goal, owns, isOpen, leads⟩ := network?_of_openPath opening
  obtain ⟨_, own, location, moved⟩ := Switch.enter_entered entering
  cases owns.symm.trans moved.aims
  have still := Kernel.opened_of_network? moved.there
  rw [← leads, ← moved.kernel.network?_of_opened isOpen still, moved.there, moved.thread]

theorem settled_eq_ok {found : Except NetSwitch.Error α} {restored closed : Except NetSwitch.Error Unit}
    {value : α} : settled found restored closed = .ok value ↔
      found = .ok value ∧ restored = .ok () ∧ closed = .ok () := by
  rcases found with e | flags <;> rcases restored with e | ⟨⟩ <;> rcases closed with e | ⟨⟩ <;>
    simp [settled]

theorem made_answered {left back noted : Machine} {found : Except NetSwitch.Error UInt16}
    {restored closed : Except NetSwitch.Error Unit}
    (opening : Handle.openPath netns before = (.ok target, opened))
    (entering : Switch.enter target opened = (.ok home, entered))
    (asking : Device.Asked Device.loopback desired? entered left found)
    (restoring : Switch.restore home left = (restored, back)) (alike : back.Alike noted)
    (closing : target.close noted = (closed, after)) :
    Device.Answered Device.loopback desired? entered.thread.location before after found := by
  have gone := (Switch.enter_calls target).namespaces entering
  have returned := (Switch.restore_calls home).namespaces restoring
  have ended : after.kernel.namespaces = left.kernel.namespaces := by
    rw [Handle.close_namespaces closing, alike.kernel, returned]
  exact asking.answered.transfer (gone.trans (Handle.openPath_namespaces opening)) ended

/-- Either a thread gets nowhere and changes no flags, or what it finds and leaves are the flags of
the loopback device in the namespace at the path. -/
theorem Excursion.answered (excursion : Excursion netns desired? before after outcome) :
    ((∃ e, outcome = .error e) ∧ after.kernel.namespaces = before.kernel.namespaces) ∨
    ∃ name found restored closed, before.kernel.lead? before.thread.location netns = some name ∧
      Device.Answered Device.loopback desired? name before after found ∧
      outcome = settled found restored closed := by
  cases excursion with
  | unopened e opening => exact .inl ⟨⟨e, rfl⟩, Handle.openPath_namespaces opening⟩
  | refused e target opened left closed opening entering closing =>
      have gone := (Switch.enter_calls target).namespaces entering
      exact .inl ⟨⟨e, rfl⟩,
        (Handle.close_namespaces closing).trans (gone.trans (Handle.openPath_namespaces opening))⟩
  | made target home opened entered left back noted found restored closed opening entering asking
      restoring alike closing =>
      exact .inr ⟨entered.thread.location, found, restored, closed, lead_of_entered opening entering,
        made_answered opening entering asking restoring alike closing, rfl⟩

theorem Excursion.opened_or (excursion : Excursion netns desired? before after outcome) :
    (∃ target opened, Handle.openPath netns before = (.ok target, opened)) ∨
      after.kernel.namespaces = before.kernel.namespaces := by
  cases excursion with
  | unopened e opening => exact .inr (Handle.openPath_namespaces opening)
  | refused e target opened left closed opening => exact .inl ⟨target, opened, opening⟩
  | made target home opened entered left back noted found restored closed opening =>
      exact .inl ⟨target, opened, opening⟩

/-- The flags are those of the loopback device in the namespace at the path, and the device has been
brought into the state that is wanted, which is all that has changed. -/
def Reached (netns : Path) (desired? : Option LinkState) (before after : Machine) (flags : UInt16) :
    Prop :=
  ∃ name, before.kernel.lead? before.thread.location netns = some name ∧
    before.kernel.flags? name (Bytes.ofString Device.loopback.name) = some flags ∧
    after.kernel.namespaces = Device.requested before.kernel name Device.loopback desired?

theorem Excursion.reached {flags : UInt16}
    (excursion : Excursion netns desired? before after (.ok flags)) :
    Reached netns desired? before after flags := by
  rcases excursion.answered with ⟨⟨e, failed⟩, -⟩ | ⟨name, found, restored, closed, led, answered, told⟩
  · cases failed
  · obtain ⟨rfl, -, -⟩ := settled_eq_ok.mp told.symm
    obtain ⟨read, left⟩ := answered.read flags rfl
    exact ⟨name, led, read, left⟩

theorem Excursion.spares (excursion : Excursion netns none before after outcome) :
    after.kernel.namespaces = before.kernel.namespaces := by
  rcases excursion.answered with ⟨-, same⟩ | ⟨name, found, restored, closed, -, answered, -⟩
  · exact same
  · rcases found with e | flags
    · exact answered.failed e rfl
    · exact (answered.read flags rfl).2

theorem Reached.of_alike {start final : Machine} {flags : UInt16}
    (reached : Reached netns desired? before after flags) (first : start.Alike before)
    (last : after.Alike final) : Reached netns desired? start final flags := by
  obtain ⟨name, led, read, left⟩ := reached
  rw [first.kernel, first.thread] at led
  rw [first.kernel] at read left
  exact ⟨name, led, read, by rw [last.kernel, left]⟩

theorem Reached.state {desired : LinkState} {flags : UInt16}
    (reached : Reached netns (some desired) before after flags) :
    ∃ name left, before.kernel.lead? before.thread.location netns = some name ∧
      after.kernel.flags? name (Bytes.ofString Device.loopback.name) = some left ∧
      Device.stateOf left = desired := by
  obtain ⟨name, led, read, left⟩ := reached
  refine ⟨name, Device.withState flags desired, led, ?_, Device.stateOf_withState⟩
  rw [Device.flags?_of_requested left, if_pos ⟨rfl, rfl⟩, read]
  rfl

end Reached

/-! ### Commands as excursions -/

section Commands

variable {request : Request} {version : String} {answer : Except Error Reply}

theorem netns?_of_missing (missing : request.netns = none ∨ request.netns = some []) :
    request.netns? = none := by
  rcases missing with missing | missing <;> simp [Request.netns?, missing]

theorem netns?_of_given (given : request.netns = some netns) (proper : netns ≠ []) :
    request.netns? = some netns := by
  simp [Request.netns?, given, proper]

theorem add_excursion (ran : add request version before = (answer, after)) :
    (request.netns? = none ∧ after = before) ∨
    ∃ netns outcome, request.netns? = some netns ∧
      Excursion netns (some .up) before after outcome ∧ answer = replyTo .add version netns outcome := by
  rcases add_ran ran with ⟨missing, -, same⟩ | ⟨netns, found, given, ranInside, rfl⟩
  · exact .inl ⟨missing, same⟩
  · obtain ⟨outcome, excursion, rfl⟩ := excursion_of_result (fun _ => rfl) (bring_asks .up) ranInside
    refine .inr ⟨netns, outcome, given, excursion, ?_⟩
    rcases outcome with e | flags <;> rfl

theorem check_excursion (ran : check request before = (answer, after)) :
    (request.netns? = none ∧ after = before) ∨
    ∃ netns outcome, request.netns? = some netns ∧
      Excursion netns none before after outcome ∧ answer = replyTo .check version netns outcome := by
  rcases check_ran ran with ⟨missing, -, same⟩ | ⟨netns, found, given, ranInside, rfl⟩
  · exact .inl ⟨missing, same⟩
  · obtain ⟨outcome, excursion, rfl⟩ := excursion_of_result (fun _ => rfl) state_asks ranInside
    refine .inr ⟨netns, outcome, given, excursion, ?_⟩
    rcases outcome with e | flags
    · rfl
    · have found : ((Except.ok flags).map Device.stateOf).mapError Error.library =
          .ok (Device.stateOf flags) := rfl
      rw [found, replyTo]
      cases Device.stateOf flags <;> rfl

/-- There is nothing to take down if opening the namespace finds it gone. -/
theorem del_gone {id : String} {opened : Machine} (given : request.netns? = some netns)
    (opening : Handle.openPath netns before = (.error (.notFound id), opened))
    (ran : del request before = (answer, after)) : answer = .ok .empty ∧ opened.Alike after := by
  rcases del_ran ran with ⟨missing, -⟩ | ⟨_, there, ⟨e, left, failing, rfl, alike⟩ |
    ⟨_, _, _, _, _, instead, -⟩⟩
  · cases given.symm.trans missing
  · cases given.symm.trans there
    cases opening.symm.trans failing
    exact ⟨rfl, alike⟩
  · cases given.symm.trans there
    cases opening.symm.trans instead

/-- In any other case, taking the device down is what doing so at the path comes to. -/
theorem del_there {found : Except NetSwitch.Error Handle} {opened : Machine}
    (given : request.netns? = some netns) (opening : Handle.openPath netns before = (found, opened))
    (other : ∀ id, found ≠ .error (.notFound id)) (ran : del request before = (answer, after)) :
    ∃ outcome left, Switch.runAtPath netns (body (Device.loopback.bring .down)) (before, ()) =
        (outcome, left, ()) ∧ left.Alike after ∧
      answer = (outcome.toExcept.mapError .library).map fun () => .empty := by
  rcases del_ran ran with ⟨missing, -⟩ | ⟨_, there, ⟨e, left, failing, rfl, alike⟩ |
    ⟨target, left, outcome, acted, closed, instead, ranInside, closing, rfl⟩⟩
  · cases given.symm.trans missing
  · cases given.symm.trans there
    cases opening.symm.trans failing
    refine ⟨.failed e, opened, Switch.runAtPath_ran.mpr (.inl ⟨e, failing, rfl, rfl⟩), alike, ?_⟩
    cases e
    case notFound id => exact absurd rfl (other id)
    all_goals rfl
  · cases given.symm.trans there
    obtain ⟨inner, ⟨⟩, ranTask, rfl⟩ := result_ran.mp ranInside
    cases made : Switch.closeAfter target inner acted with
    | mk last final =>
        obtain ⟨_, same, settles⟩ := closeAfter_calm (fun _ => rfl) made
        cases closing.symm.trans same
        refine ⟨last, after, Switch.runAtPath_ran.mpr
          (.inr ⟨target, left, inner, acted, instead, ranTask, made⟩), .refl _, ?_⟩
        rw [settles]
        rcases inner with ⟨⟩ | e | ⟨⟨⟩⟩ <;> rcases closed with e | ⟨⟩ <;> rfl

theorem del_excursion (ran : del request before = (answer, after)) :
    (request.netns? = none ∧ before.Alike after) ∨
    ∃ netns outcome left, request.netns? = some netns ∧
      Excursion netns (some .down) before left outcome ∧ left.Alike after ∧
      (answer = replyTo .del version netns outcome ∨ answer = .ok .empty ∧
        ∃ id, Handle.openPath netns before = (.error (.notFound id), left)) := by
  cases given : request.netns? with
  | none =>
      rcases del_ran ran with ⟨-, -, alike⟩ | ⟨_, there, -⟩
      · exact .inl ⟨rfl, alike⟩
      · cases given.symm.trans there
  | some netns =>
      refine .inr ⟨netns, ?_⟩
      cases opening : Handle.openPath netns before with
      | mk found opened =>
          by_cases gone : ∃ id, found = .error (.notFound id)
          · obtain ⟨id, rfl⟩ := gone
            obtain ⟨empty, alike⟩ := del_gone given opening ran
            exact ⟨_, opened, rfl, .unopened _ opening, alike, .inr ⟨empty, id, rfl⟩⟩
          · obtain ⟨outcome, left, ranTask, alike, rfl⟩ :=
              del_there given opening (fun id same => gone ⟨id, same⟩) ran
            obtain ⟨flags, excursion, same⟩ := excursion_of_result (fun _ => rfl) (bring_asks .down)
              (result_ran.mpr ⟨outcome, (), ranTask, rfl⟩)
            refine ⟨flags, left, rfl, excursion, alike, .inl ?_⟩
            rw [same]
            rcases flags with e | flags <;> rfl

theorem perform_excursion (ran : perform request version before = (answer, after)) :
    ((request.command = .version ∨ request.netns? = none) ∧ before.Alike after) ∨
    ∃ netns outcome left, request.command ≠ .version ∧ request.netns? = some netns ∧
      Excursion netns request.command.desired? before left outcome ∧ left.Alike after ∧
      (answer = replyTo request.command version netns outcome ∨
        request.command = .del ∧ answer = .ok .empty ∧
          ∃ id, Handle.openPath netns before = (.error (.notFound id), left)) := by
  unfold perform at ran
  cases command : request.command with
  | version =>
      rw [command] at ran
      cases ran
      exact .inl ⟨.inl rfl, .refl _⟩
  | add =>
      rw [command] at ran
      rcases add_excursion ran with ⟨missing, rfl⟩ | ⟨netns, outcome, given, excursion, replied⟩
      · exact .inl ⟨.inr missing, .refl _⟩
      · exact .inr ⟨netns, outcome, after, by simp, given, excursion, .refl _, .inl replied⟩
  | del =>
      rw [command] at ran
      rcases del_excursion ran with
        ⟨missing, alike⟩ | ⟨netns, outcome, left, given, excursion, alike, replied⟩
      · exact .inl ⟨.inr missing, alike⟩
      · refine .inr ⟨netns, outcome, left, by simp, given, excursion, alike, ?_⟩
        exact replied.imp_right fun ⟨empty, gone⟩ => ⟨rfl, empty, gone⟩
  | check =>
      rw [command] at ran
      rcases check_excursion ran with ⟨missing, rfl⟩ | ⟨netns, outcome, given, excursion, replied⟩
      · exact .inl ⟨.inr missing, .refl _⟩
      · exact .inr ⟨netns, outcome, after, by simp, given, excursion, .refl _, .inl replied⟩

/-- An invocation in a version that the plugin speaks, with a namespace to go to, is an excursion
there, and any other asks nothing of the kernel. -/
theorem run_excursion {stdin : Bytes} (ran : run request stdin before = (answer, after)) :
    ((request.command = .version ∨ (Configuration.read stdin).isSupported = false ∨
        request.netns? = none) ∧ before.Alike after) ∨
    ∃ netns outcome noted left, request.command ≠ .version ∧
      (Configuration.read stdin).isSupported = true ∧ request.netns? = some netns ∧
      before.Alike noted ∧ Excursion netns request.command.desired? noted left outcome ∧
      left.Alike after ∧
      (answer = replyTo request.command (Configuration.read stdin).version netns outcome ∨
        request.command = .del ∧ answer = .ok .empty ∧
          ∃ id, Handle.openPath netns noted = (.error (.notFound id), left)) := by
  obtain ⟨noted, -, alike, ranRest⟩ := run_ran ran
  split at ranRest
  · rename_i refused
    obtain ⟨-, rfl⟩ := ranRest
    have unsupported : (Configuration.read stdin).isSupported = false := by simpa using refused.2
    exact .inl ⟨.inr (.inl unsupported), alike⟩
  · rename_i accepted
    obtain ⟨performed, ranPerform, rest⟩ := ranRest
    rcases perform_excursion ranPerform with
      ⟨nowhere, still⟩ | ⟨netns, outcome, left, acts, given, excursion, last, replied⟩
    · exact .inl ⟨nowhere.imp_right .inr, (alike.trans still).trans rest⟩
    · have supported : (Configuration.read stdin).isSupported = true := by simpa [acts] using accepted
      exact .inr ⟨netns, outcome, noted, left, acts, supported, given, alike, excursion,
        last.trans rest, replied⟩

end Commands

/-- A host with a second namespace, in which the loopback device is down, and a file for it. -/
def neighboured : Machine :=
  { Machine.host with
    kernel := { Machine.host.kernel with
      namespaces := Machine.host.kernel.namespaces ++ [⟨"pod", ⟨7⟩, [⟨"lo", 8⟩]⟩]
      files := [(Bytes.ofString "/pod", .namespaceFile { target := .network "pod" })] } }

end Plugin

end NetSwitch
