import NetSwitch.Proofs.Blind
import NetSwitch.Proofs.Plugin.Excursion

/-! DEL tolerates a namespace that is gone, and nothing else. -/

namespace NetSwitch.Plugin

open Kernel (Entry)

variable {before after : Machine} {request : Request} {answer : Except Error Reply} {netns : Path}

/-- What DEL comes to with a path: success if opening the path finds the namespace gone, and what
taking the device down at the path comes to otherwise. -/
structure Tolerant (netns : Path) (before after : Machine) (answer : Except Error Reply) : Prop where
  gone : ∀ id opened, Handle.openPath netns before = (.error (.notFound id), opened) →
    answer = .ok .empty ∧ opened.Alike after ∧
      ∃ moments, Course Syscall.Does before moments after ∧ ∀ moment ∈ moments, moment.step.Aside
  otherwise : ∀ found opened, Handle.openPath netns before = (found, opened) →
    (∀ id, found ≠ .error (.notFound id)) →
      ∃ outcome final, Switch.runAtPath netns (body (Device.loopback.bring .down)) (before, ()) =
          (outcome, final, ()) ∧ final.Alike after ∧
        answer = (outcome.toExcept.mapError .library).map fun () => .empty
  down : ∀ target opened, Handle.openPath netns before = (.ok target, opened) →
    answer = .ok .empty → ∃ name flags, before.kernel.lead? before.thread.location netns = some name ∧
      after.kernel.flags? name (Bytes.ofString Device.loopback.name) = some flags ∧
      Device.stateOf flags = .down

theorem bring_atPath_blind (netns : Path) (state : LinkState) :
    (Switch.runAtPath netns (body (Device.loopback.bring state)) : Task Unit _).Blind :=
  runAtPath_blind (fun _ => rfl) (Mirror.bring Device.loopback state) netns

theorem del_otherwise {noted performed opened : Machine} {found : Except NetSwitch.Error Handle}
    (alike : before.Alike noted) (given : request.netns? = some netns)
    (opening : Handle.openPath netns before = (found, opened))
    (other : ∀ id, found ≠ .error (.notFound id)) (ran : del request noted = (answer, performed)) :
    ∃ outcome final, Switch.runAtPath netns (body (Device.loopback.bring .down)) (before, ()) =
        (outcome, final, ()) ∧ final.Alike performed ∧
      answer = (outcome.toExcept.mapError .library).map fun () => .empty := by
  -- The invocation has logged something first, which neither opening nor the task takes notice of.
  obtain ⟨_, instead, -⟩ := (Handle.openPath_blind netns).ran alike opening
  obtain ⟨outcome, left, ranTask, last, rfl⟩ := del_there given instead other ran
  obtain ⟨final, ranFirst, apart⟩ := (bring_atPath_blind netns .down).ran alike.symm ranTask
  exact ⟨outcome, final, ranFirst, apart.symm.trans last, rfl⟩

/-- DEL does nothing without a namespace, succeeds if the namespace is gone, and is otherwise what
taking the device down at the path is.  If it succeeds for a path that was opened, the device is
down. -/
theorem del_tolerant (request : Request) (stdin : Bytes) (before : Machine)
    (command : request.command = .del) (supported : (Configuration.read stdin).isSupported = true) :
    (request.netns = none ∨ request.netns = some [] →
      ∃ after, run request stdin before = (.ok .empty, after) ∧ before.Alike after) ∧
    ∀ netns, request.netns = some netns → netns ≠ [] →
      ∃ answer after, run request stdin before = (answer, after) ∧
        Tolerant netns before after answer := by
  cases ran : run request stdin before with
  | mk answer after =>
      obtain ⟨noted, -, alike, ranRest⟩ := run_ran ran
      rw [if_neg (by simp [supported])] at ranRest
      obtain ⟨performed, ranDel, rest⟩ := ranRest
      rw [perform, command] at ranDel
      refine ⟨fun missing => ?_, fun netns given proper => ⟨answer, after, rfl, ?_, ?_, ?_⟩⟩
      · rcases del_ran ranDel with ⟨-, rfl, still⟩ | ⟨_, there, -⟩
        · exact ⟨after, rfl, (alike.trans still).trans rest⟩
        · cases (netns?_of_missing missing).symm.trans there
      all_goals have there := netns?_of_given given proper
      · intro id opened opening
        obtain ⟨left, instead, same⟩ := (Handle.openPath_blind netns).ran alike opening
        obtain ⟨rfl, last⟩ := del_gone there instead ranDel
        have apart := (same.trans last).trans rest
        obtain ⟨moments, course, aside⟩ := Handle.openPath_calls _ _ _ _ opening
        exact ⟨rfl, apart, moments, course.then_pause (.of_alike apart), aside⟩
      · intro found opened opening other
        obtain ⟨outcome, final, ranTask, last, told⟩ := del_otherwise alike there opening other ranDel
        exact ⟨outcome, final, ranTask, last.trans rest, told⟩
      · intro target opened opening succeeded
        obtain ⟨outcome, final, ranTask, last, told⟩ :=
          del_otherwise alike there opening (by simp) ranDel
        obtain ⟨found, excursion, same⟩ := excursion_of_result (fun _ => rfl) (bring_asks .down)
          (result_ran.mpr ⟨outcome, (), ranTask, rfl⟩)
        rcases found with e | flags
        · rw [told, same] at succeeded
          cases succeeded
        · obtain ⟨name, flags, led, read, state⟩ := excursion.reached.state
          rw [← (last.trans rest).kernel] at read
          exact ⟨name, flags, led, read, state⟩

theorem del_tolerant_neighboured :
    (Configuration.read []).isSupported = true ∧
      (run { command := .del, netns := some (Bytes.ofString "/gone") } [] neighboured).1 = .ok .empty ∧
      ∃ answer after,
        run { command := .del, netns := some (Bytes.ofString "/pod") } [] neighboured = (answer, after) ∧
        Tolerant (Bytes.ofString "/pod") neighboured after answer := by
  have supported : (Configuration.read []).isSupported = true := by decide
  refine ⟨supported, rfl, ?_⟩
  exact (del_tolerant { command := .del, netns := some (Bytes.ofString "/pod") } [] neighboured rfl
    supported).2 _ rfl (by decide)

end NetSwitch.Plugin
