import NetSwitch.Proofs.Plugin.Excursion

/-! What an invocation of the plugin can touch: the up flag of the loopback device in the
namespace that it was given, and that only from within that namespace. -/

namespace NetSwitch

open Kernel (Descriptor Entry Report)

/-- A step in the middle of a sequence is one of the middle stretch if it is none of the others. -/
theorem split_middle {first middle last earlier later : List α} {step : α}
    (split : first ++ (middle ++ last) = earlier ++ step :: later)
    (early : step ∉ first) (late : step ∉ last) :
    ∃ inner outer, middle = inner ++ step :: outer ∧ earlier = first ++ inner ∧
      later = outer ++ last := by
  obtain ⟨inner, rfl, rest⟩ : ∃ inner, earlier = first ++ inner ∧ middle ++ last = inner ++ step :: later := by
    rcases List.append_eq_append_iff.mp split with ⟨inner, same, rest⟩ | ⟨beyond, same, rest⟩
    · exact ⟨inner, same, rest⟩
    · rcases beyond with _ | ⟨head, tail⟩
      · exact ⟨[], by simpa using same.symm, rest.symm⟩
      · cases rest
        exact (early (by simp [same])).elim
  rcases List.append_eq_append_iff.mp rest with ⟨beyond, -, inside⟩ | ⟨outer, rfl, same⟩
  · exact (late (by simp [inside])).elim
  · rcases outer with _ | ⟨head, tail⟩
    · rw [List.nil_append] at same
      exact (late (by simp [← same])).elim
    · cases same
      exact ⟨inner, tail, rfl, rfl, rfl⟩

/-- A call that is made between a thread's move into a namespace and its move back, which are the
only moves there are, and that has to do with a device of that namespace only. -/
structure Moment.Inside (moment : Moment Entry) (earlier later : List (Moment Entry)) (name : String)
    (device : Bytes) : Prop where
  entered : ∃ target, Course.moves earlier = [⟨.setns target (some name), .ok⟩]
  leaves : ∃ own origin report, Course.moves later = [⟨.setns own origin, report⟩]
  within : moment.Within name device

namespace Plugin

variable {before after : Machine} {netns : Path} {desired? : Option LinkState}
variable {outcome : Except NetSwitch.Error UInt16}

/-- The calls of an excursion: none has to do with a device, or those that do are made inside. -/
theorem Excursion.calls (excursion : Excursion netns desired? before after outcome) :
    ∃ moments, Course Syscall.Does before moments after ∧
      ∀ earlier moment later, moments = earlier ++ moment :: later →
        moment.step.concernsDevice = true →
        ∃ name, before.kernel.lead? before.thread.location netns = some name ∧
          moment.Inside earlier later name (Bytes.ofString Device.loopback.name) := by
  have foreign {moments : List (Moment Entry)} {moment : Moment Entry}
      (spares : ∀ moment ∈ moments, moment.step.Spares)
      (concerns : moment.step.concernsDevice = true) : moment ∉ moments :=
    fun member => Bool.false_ne_true ((spares moment member).symm.trans concerns)
  have opens := (Handle.openPath_calls netns).mono fun _ => Entry.Aside.spares
  cases excursion with
  | unopened e opening =>
      obtain ⟨moments, course, spares⟩ := opens _ _ _ opening
      refine ⟨moments, course, fun earlier moment later split concerns => ?_⟩
      exact absurd (by simp [split]) (foreign spares concerns)
  | refused e target opened left closed opening entering closing =>
      have closes := (Handle.close_calls target).mono fun _ => Entry.Aside.spares
      obtain ⟨first, course, early⟩ := opens _ _ _ opening
      obtain ⟨middle, courseMiddle, between⟩ := Switch.enter_calls _ _ _ _ entering
      obtain ⟨last, courseLast, late⟩ := closes _ _ _ closing
      refine ⟨_, course.append (courseMiddle.append courseLast),
        fun earlier moment later split concerns => ?_⟩
      have member : moment ∈ first ++ (middle ++ last) := by simp [split]
      simp [foreign early concerns, foreign between concerns, foreign late concerns] at member
  | made target home opened entered left back noted found restored closed opening entering asking
      restoring alike closing =>
      obtain ⟨_, own, _, moved⟩ := Switch.enter_entered entering
      obtain ⟨first, course, aside⟩ := Handle.openPath_calls _ _ _ _ opening
      obtain ⟨going, goal, courseGoing, spareGoing, movesGoing⟩ := Switch.enter_course entering
      obtain ⟨middle, courseMiddle, within⟩ := asking.within
      obtain ⟨coming, origin, report, courseComing, spareComing, movesComing⟩ :=
        Switch.restore_course moved.owns restoring
      obtain ⟨last, courseLast, asideLast⟩ := Handle.close_calls _ _ _ _ closing
      -- Neither the way in nor the way back concerns a device, so a call that does is one of the middle.
      have courseBack := (courseComing.then_pause (.of_alike alike)).append courseLast
      refine ⟨_, (course.append courseGoing).append (courseMiddle.append courseBack),
        fun earlier moment later split concerns => ?_⟩
      have early : moment ∉ first ++ going := by
        simp [foreign (fun moment member => (aside moment member).spares) concerns,
          foreign spareGoing concerns]
      have late : moment ∉ coming ++ last := by
        simp [foreign (fun moment member => (asideLast moment member).spares) concerns,
          foreign spareComing concerns]
      obtain ⟨inner, outer, rfl, rfl, rfl⟩ := split_middle split early late
      have stays {stretch : List (Moment Entry)} (part : ∀ step ∈ stretch, step ∈ inner ++ moment :: outer) :
          Course.moves stretch = [] :=
        Course.moves_eq_nil fun step member => (within step (part step member)).stays
      refine ⟨entered.thread.location, lead_of_entered opening entering, ⟨goal, ?_⟩,
        ⟨own, origin, report, ?_⟩, within moment (by simp)⟩
      · rw [Course.moves_append, Course.moves_append, Course.moves_aside aside, movesGoing,
          stays fun step member => by simp [member]]
        rfl
      · rw [Course.moves_append, Course.moves_append, Course.moves_aside asideLast, movesComing,
          stays fun step member => by simp [member]]
        rfl

/-- How the flags of a device may change under a command: only the up flag, and only the way that
the command goes. -/
structure Toggled (command : Command) (old new : UInt16) : Prop where
  others : new &&& ~~~Device.upFlag = old &&& ~~~Device.upFlag
  way : command = .add ∧ Device.stateOf new = .up ∨ command = .del ∧ Device.stateOf new = .down

theorem toggled_of_desired {command : Command} {state : LinkState} {flags : UInt16}
    (desired : command.desired? = some state) : Toggled command flags (Device.withState flags state) := by
  refine ⟨Device.withState_others, ?_⟩
  cases command <;> cases desired <;> simp

theorem changed_of_answered {command : Command} {name location : String} {device : Bytes}
    {found : Except NetSwitch.Error UInt16}
    (answered : Device.Answered Device.loopback command.desired? name before after found)
    (changed : after.kernel.flags? location device ≠ before.kernel.flags? location device) :
    location = name ∧ device = Bytes.ofString Device.loopback.name ∧
      ∃ old new, before.kernel.flags? location device = some old ∧
        after.kernel.flags? location device = some new ∧ Toggled command old new := by
  rcases found with e | flags
  · exact absurd (Kernel.flags?_of_namespaces (answered.failed e rfl)) changed
  obtain ⟨read, left⟩ := answered.read flags rfl
  cases desired : command.desired? with
  | none =>
      rw [desired] at left
      exact absurd (Kernel.flags?_of_namespaces left) changed
  | some state =>
      rw [desired] at left
      rw [Device.flags?_of_requested left] at changed ⊢
      by_cases same : location = name ∧ device = Bytes.ofString Device.loopback.name
      · rw [if_pos same]
        obtain ⟨rfl, rfl⟩ := same
        rw [read]
        exact ⟨rfl, rfl, flags, _, rfl, rfl, toggled_of_desired desired⟩
      · exact absurd (if_neg same) changed

theorem layout_of_answered {name : String} {found : Except NetSwitch.Error UInt16}
    (answered : Device.Answered Device.loopback desired? name before after found) :
    after.kernel.layout = before.kernel.layout := by
  rcases found with e | flags
  · exact Kernel.layout_of_namespaces (answered.failed e rfl)
  · exact Device.layout_of_requested (answered.read flags rfl).2

/-- What an invocation may do, with the calls that it makes. -/
structure Confined (request : Request) (stdin : Bytes) (before after : Machine)
    (moments : List (Moment Entry)) : Prop where
  trace : after.kernel.trace = before.kernel.trace ++ moments.map (·.step)
  layout : after.kernel.layout = before.kernel.layout
  flags : ∀ location device,
    after.kernel.flags? location device ≠ before.kernel.flags? location device →
      device = Bytes.ofString Device.loopback.name ∧ (Configuration.read stdin).isSupported = true ∧
      (∃ netns, request.netns? = some netns ∧
        before.kernel.lead? before.thread.location netns = some location) ∧
      ∃ old new, before.kernel.flags? location device = some old ∧
        after.kernel.flags? location device = some new ∧ Toggled request.command old new
  calls : ∀ earlier moment later, moments = earlier ++ moment :: later →
    moment.step.concernsDevice = true →
      ∃ netns name, request.netns? = some netns ∧
        before.kernel.lead? before.thread.location netns = some name ∧
        moment.Inside earlier later name (Bytes.ofString Device.loopback.name)
  silent : request.command = .version ∨ (Configuration.read stdin).isSupported = false ∨
    request.netns = none ∨ request.netns = some [] → moments = []

/-- The plugin is confined, whatever the world, the faults, the thread, the environment and the
configuration: it changes nothing but the up flag of the loopback device of the namespace that it
was given, and asks about devices only from inside that namespace and only about that one. -/
theorem run_confined (request : Request) (stdin : Bytes) (before : Machine) :
    ∃ answer after moments, run request stdin before = (answer, after) ∧
      Course Syscall.Does before moments after ∧ Confined request stdin before after moments := by
  cases ran : run request stdin before with
  | mk answer after =>
      rcases run_excursion ran with ⟨-, alike⟩ |
        ⟨netns, outcome, noted, left, acts, supported, given, alike, excursion, rest, -⟩
      · refine ⟨answer, after, [], rfl, .done (.of_alike alike), ?_, ?_, ?_, by simp, fun _ => rfl⟩
        · simp [alike.kernel]
        · rw [alike.kernel]
        · intro location device changed
          rw [alike.kernel] at changed
          exact absurd rfl changed
      obtain ⟨moments, course, calls⟩ := excursion.calls
      have whole := (course.after_pause (.of_alike alike)).then_pause (.of_alike rest)
      rw [alike.kernel, alike.thread] at calls
      refine ⟨answer, after, moments, rfl, whole, whole.trace, ?_, ?_, ?_, ?_⟩
      · rcases excursion.answered with ⟨-, same⟩ | ⟨_, _, _, _, -, answered, -⟩
        · rw [rest.kernel, Kernel.layout_of_namespaces same, alike.kernel]
        · rw [rest.kernel, layout_of_answered answered, alike.kernel]
      · intro location device changed
        rw [rest.kernel, ← alike.kernel] at changed
        rcases excursion.answered with ⟨-, same⟩ | ⟨name, _, _, _, led, answered, -⟩
        · exact absurd (Kernel.flags?_of_namespaces same) changed
        · obtain ⟨rfl, rfl, toggled⟩ := changed_of_answered answered changed
          rw [alike.kernel, ← rest.kernel] at toggled
          rw [alike.kernel, alike.thread] at led
          exact ⟨rfl, supported, ⟨netns, given, led⟩, toggled⟩
      · intro earlier moment later split concerns
        obtain ⟨name, led, inside⟩ := calls earlier moment later split concerns
        exact ⟨netns, name, given, led, inside⟩
      · intro nothing
        rcases nothing with version | unsupported | missing
        · exact absurd version acts
        · exact absurd (unsupported.symm.trans supported) Bool.false_ne_true
        · cases (netns?_of_missing missing).symm.trans given

end Plugin

end NetSwitch
