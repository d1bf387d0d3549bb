import NetSwitch.Proofs.Scenario.Development

/-! The scenes of a program follow one another: from each to the next, no handle changes its identity,
and every scene is sound. -/

namespace NetSwitch.Scenario

open Kernel (Descriptor)
open Switch (Arrival Arrives Departs Goes)

section Inside

variable {origin : Kernel} {foreign : List Descriptor} {handles held : List Handle}
variable {before after machine reacted : Machine} {session left own there noted : Session V}
variable {ending : Ending V} {flow : Flow V} {inner outcome : Result V} {arrival : Arrival}
variable {resume : Bool} {value : Reaction V}

/-! ### Leaving a namespace -/

/-- A handle that code returns has just been opened. -/
theorem conclude_obtains (ran : conclude ending flow before = (outcome, after)) :
    after.kernel.inode = before.kernel.inode ∧
      ∀ handle ∈ Owns.handles outcome, handle.descriptor?.isSome ∧ handle.Genuine after.kernel := by
  cases flow with
  | failed failure =>
      cases ran
      exact ⟨rfl, List.forall_mem_nil _⟩
  | unwound payload =>
      cases ran
      exact ⟨rfl, List.forall_mem_nil _⟩
  | returned value =>
      cases ending with
      | opened path name =>
          obtain ⟨made, middle, ranOpen, ranRest⟩ := Op.bind_ran.mp ran
          have obtains := obtains_openPath path before
          rcases made with e | handle <;> cases ranRest
          · exact ⟨obtains.inode ranOpen, List.forall_mem_nil _⟩
          · exact ⟨obtains.inode ranOpen, obtains.genuine ranOpen⟩
      | _ =>
          cases ran
          exact ⟨rfl, List.forall_mem_nil _⟩

theorem reactTo_grows {answers : Option (List (Answer V))}
    (accounts : origin.Accounts foreign (Owns.handles outcome ++ (held ++ Owns.handles session))
      before.kernel)
    (ran : reactTo resume answers outcome (before, session) = (value, after, left)) :
    (Scene.of held (before, session)).Grows (.of held (after, left)) (Owns.handles outcome) := by
  have still : (Scene.of held (before, session)).Grows (.of held (before, session)) [] :=
    ⟨.refl _, rfl, List.Subset.refl _, .refl _⟩
  rcases outcome with (_ | ⟨handle, name⟩) | failure | payload
  · cases ran
    exact still
  · obtain ⟨⟨⟩, ⟨middle, _⟩, ranHold, ranRest⟩ := Task.bind_ran.mp ran
    cases ranRest
    exact hold_grows accounts ranHold
  · cases ran
    exact still
  · cases resume <;> cases ran <;> exact still

/-- From the last scene inside to the one in which what came of it has been reacted to. -/
theorem leaving_develops {answers : Option (List (Answer V))} {last : Machine}
    (accounts : origin.Accounts foreign (arrival.handles ++ held ++ Owns.handles session) last.kernel)
    (same : there.registry = session.registry) (concluding : conclude ending flow last = (inner, before))
    (departs : Departs arrival before machine inner outcome)
    (reacting : reactTo resume answers outcome (machine, there) = (value, reacted, noted)) :
    ∃ added, (Scene.of (arrival.handles ++ held) (last, session)).Grows (.of held (reacted, noted)) added ∧
      (∀ handle ∈ added, handle.descriptor?.isSome ∧ handle.Traced reacted.kernel) ∧
      origin.Accounts foreign (held ++ Owns.handles noted) reacted.kernel := by
  obtain ⟨inode, obtained⟩ := conclude_obtains concluding
  have first : (Scene.of (arrival.handles ++ held) (last, session)).Grows
      (.of (arrival.handles ++ held) (before, there)) [] :=
    ⟨(conclude_accounts accounts.rebase concluding).grown, inode, List.Subset.refl _, .of_eq same⟩
  have within : origin.Accounts foreign
      (Owns.handles inner ++ (arrival.handles ++ held ++ Owns.handles there)) before.kernel := by
    have listed : Owns.handles there = Owns.handles session := congrArg Registry.handles same
    rw [listed]
    exact conclude_accounts accounts concluding
  have leaving : origin.Accounts foreign
      (arrival.handles ++ (Owns.handles inner ++ (held ++ Owns.handles there))) before.kernel := by
    rw [List.append_assoc] at within
    exact within.perm (List.perm_append_comm_assoc ..)
  -- From here on the handles of the switch are gone, and those that the outcome hands on are held.
  have outside := departs.accounts leaving
  have second : (Scene.of (arrival.handles ++ held) (before, there)).Grows (.of held (machine, there)) [] :=
    ⟨(departs.accounts leaving.rebase).grown, departs.inode, List.subset_append_right .., .refl _⟩
  have third := reactTo_grows outside reacting
  refine ⟨_, (first.trans second).trans third, fun handle added => ?_, reactTo_accounts outside reacting⟩
  obtain ⟨isOpen, genuine⟩ := obtained handle (departs.yields added)
  have later := second.trans third
  exact ⟨isOpen, genuine.traced.mono later.kernel later.inode⟩

/-! ### Entering a namespace -/

/-- Code that is given a handle goes through its scenes. -/
def Traverses (run : Handle → Run V α)
    (scenes : Handle → List Handle → Machine × Session V → List Scene) : Prop :=
  ∀ ⦃foreign held home before session result after left⦄, home ∈ held →
    (Scene.of held (before, session)).Sound foreign →
    run home (before, session) = (result, after, left) →
    Scene.Course foreign (.of held (before, session)) (scenes home held (before, session))
      (.of held (after, left))

/-- On arrival there are the handles that were there before, and those that the switch holds. -/
theorem arriving_develops (sound : (Scene.of held (before, session)).Sound foreign)
    (listed : Owns.handles own = Owns.handles session) (lent : session.registry.Carries own.registry [])
    (arrives : Arrives before arrival) :
    (Scene.of held (before, session)).Develops (.of (arrival.handles ++ held) (arrival.machine, own)) ∧
      before.kernel.Accounts foreign (arrival.handles ++ held ++ Owns.handles own)
        arrival.machine.kernel := by
  refine ⟨⟨arrives.inode, fun handle member => ?_, [], lent.follows, List.forall_mem_nil _⟩, ?_⟩
  · refine (List.mem_append.mp member).elim (fun new => .inr ?_) .inl
    exact (arrives.genuine handle new).traced
  · rw [List.append_assoc, listed]
    exact arrives.accounts sound.accounts

/-- The scenes of a switch: that on arrival, those of the code inside, and the one in which the thread
that waited goes on. -/
theorem switching_course {answers : Option (List (Answer V))} {arrival? : Option Arrival}
    {run : Handle → Run V (List (Answer V) × Flow V)}
    {scenes : Handle → List Handle → Machine × Session V → List Scene}
    (inside : Traverses run scenes)
    (sound : (Scene.of held (before, session)).Sound foreign)
    (listed : Owns.handles own = Owns.handles session) (lent : session.registry.Carries own.registry [])
    (goes : Goes (programBody ending run) before own machine there outcome arrival?)
    (accounts : before.kernel.Accounts foreign (Owns.handles outcome ++ (held ++ Owns.handles there))
      machine.kernel)
    (reacting : reactTo resume answers outcome (machine, there) = (value, reacted, noted))
    (finish : ∀ {origin : Kernel}, origin.Accounts foreign (held ++ Owns.handles noted) reacted.kernel →
      (Scene.of held (reacted, noted)).Grows (.of held (after, left)) [] ∧
        origin.Accounts foreign (held ++ Owns.handles left) after.kernel) :
    Scene.Course foreign (.of held (before, session))
      ((arrival?.elim [] fun arrival =>
          .of (arrival.handles ++ held) (arrival.machine, own) ::
            scenes arrival.home (arrival.handles ++ held) (arrival.machine, own)) ++
        [.of held (after, left)])
      (.of held (after, left)) := by
  cases goes with
  | refused inode same empty =>
      subst same
      obtain ⟨last, closed⟩ := finish (reactTo_accounts accounts reacting)
      have first : (Scene.of held (before, session)).Grows (.of held (machine, there)) [] :=
        ⟨accounts.grown, inode, List.Subset.refl _, lent⟩
      have second := reactTo_grows accounts reacting
      rw [empty] at second
      exact .single sound (((first.trans second).trans last).develops (List.forall_mem_nil _)) closed
  | made arrival inner left arrives ran departs =>
      obtain ⟨reached, arrived⟩ := arriving_develops sound listed lent arrives
      have settled := sound.develop reached arrived
      obtain ⟨answered, flow, last, final, ranRun, concluding, rfl⟩ := programBody_ran ran
      have course := inside (List.mem_cons_self ..) settled ranRun
      have ended := course.last_sound settled
      have same : (⟨final.registry, some answered⟩ : Session V).registry = final.registry := rfl
      obtain ⟨added, grows, obtained, reactedTo⟩ :=
        leaving_develops ended.accounts same concluding departs reacting
      obtain ⟨taken, closed⟩ := finish reactedTo
      refine .step (reached.next arrived.grown) settled (course.append (.single ended ?_ closed))
      refine (grows.trans taken).develops fun handle given => ?_
      rw [List.append_nil] at given
      obtain ⟨isOpen, traced⟩ := obtained handle given
      exact ⟨isOpen, traced.mono taken.kernel taken.inode⟩

theorem enterBy_goes {mode : Mode} {destination : Handle}
    {body : Switch.Body (Session V) String (Failure V) (Yield V)}
    (genuine : destination.Genuine before.kernel)
    (ran : enterBy mode destination body (before, own) = (outcome, after, there)) :
    Goes body before own after there outcome (mode.arrive destination before) := by
  cases mode with
  | here => exact Switch.run_goes genuine ran
  | onWorker => exact Switch.runOnWorker_goes genuine ran
  | detached => exact Switch.runDetached_goes genuine ran

theorem runEntry_course {entry : Entry} {run : Handle → Run V (List (Answer V) × Flow V)}
    {scenes : Handle → List Handle → Machine × Session V → List Scene}
    (keeps : ∀ {home : Handle} {more : List Handle}, home ∈ more → Keeps (run home) more)
    (inside : Traverses run scenes)
    (sound : (Scene.of held (before, session)).Sound foreign)
    (ran : runEntry entry resume (programBody ending run) (before, session) = (value, after, left)) :
    Scene.Course foreign (.of held (before, session))
      (entry.scenes scenes held (before, session) ++ [.of held (after, left)]) (.of held (after, left)) := by
  have accountable (more : List Handle) : (programBody ending run).Accountable (more ++ held) :=
    programBody_accountable fun home => keeps (List.mem_cons_self ..)
  cases entry with
  | byPath path =>
      obtain ⟨outcome, machine, there, ranSwitch, ranReact⟩ := reactToSwitch_ran ran
      let cleared : Session V := { session with inner := none }
      have accounts : before.kernel.Accounts foreign (held ++ Owns.handles cleared) before.kernel :=
        sound.accounts
      have listed : Owns.handles cleared = Owns.handles session := rfl
      have switched := Switch.runAtPath_accounts (fun destination => accountable [destination])
        accounts ranSwitch
      have course := switching_course inside sound listed (.refl _) (Switch.runAtPath_goes ranSwitch) switched
        ranReact fun accounts => ⟨⟨.refl _, rfl, List.Subset.refl _, .refl _⟩, accounts⟩
      rw [Entry.scenes, Entry.arrive]
      cases arriving : Switch.arriveAtPath path before <;> rw [arriving] at course <;> exact course
  | byHandle mode name =>
      rw [Entry.scenes, Entry.arrive]
      rcases withSlot_ran ran with ⟨missing, -, rfl, rfl⟩ | ⟨slot, found, ranUse⟩
      · simp only [missing]
        exact .single sound (develops_of_inert rfl rfl) sound.accounts
      · obtain ⟨middle, last, ranSwitch, ranBack⟩ := lending_ran ranUse
        obtain ⟨outcome, machine, there, ranEnter, ranReact⟩ := reactToSwitch_ran ranSwitch
        have genuine := sound.genuine slot.handle (Scene.mem_of_slot (Registry.mem_of_slot? found))
        have listed : (session.registry.lend slot.key).handles = session.registry.handles :=
          Registry.handles_lend
        have lent : before.kernel.Accounts foreign (held ++ (session.registry.lend slot.key).handles)
            before.kernel := by
          rw [listed]
          exact sound.accounts
        have switched := enterBy_accounts accountable lent genuine.backed ranEnter
        have finish {origin : Kernel}
            (accounts : origin.Accounts foreign (held ++ Owns.handles last) middle.kernel) :
            (Scene.of held (middle, last)).Grows (.of held (after, left)) [] ∧
              origin.Accounts foreign (held ++ Owns.handles left) after.kernel := by
          have given : origin.Accounts foreign ([] ++ (held ++ Owns.handles last)) middle.kernel := accounts
          exact ⟨exchange_grows Registry.handles_takeBack .takeBack given ranBack,
            exchange_accounts Registry.handles_takeBack given ranBack⟩
        have course := switching_course inside sound listed .lend (enterBy_goes genuine ranEnter) switched
          ranReact finish
        simp only [found]
        cases arriving : mode.arrive slot.handle before <;> rw [arriving] at course <;> exact course

end Inside

/-! ### Programs -/

mutual

/-- An action goes through its scenes to the one that it leaves. -/
theorem Action.run_course (action : Action V) {home : Option Handle} {held : List Handle}
    {foreign : List Descriptor} {before after : Machine} {session left : Session V} {value : Reaction V}
    (inner : ∀ handle ∈ home, handle ∈ held)
    (sound : (Scene.of held (before, session)).Sound foreign)
    (ran : action.run home (before, session) = (value, after, left)) :
    Scene.Course foreign (.of held (before, session))
      (action.scenes home held (before, session) ++ [.of held (after, left)]) (.of held (after, left)) := by
  have accounts : before.kernel.Accounts foreign (held ++ Owns.handles left) after.kernel :=
    action.run_keeps inner sound.accounts ran
  have simple (develops : (Scene.of held (before, session)).Develops (.of held (after, left))) :
      Scene.Course foreign (.of held (before, session)) ([] ++ [.of held (after, left)])
        (.of held (after, left)) := .single sound develops accounts
  have inert {run : Run V (Reaction V)} (inert : Inert run)
      (ran : run (before, session) = (value, after, left)) :
      Scene.Course foreign (.of held (before, session)) ([] ++ [.of held (after, left)])
        (.of held (after, left)) := simple (develops_of_inert (inert ran).1 (inert ran).2)
  cases action with
  | openPath path name => exact simple (holdNew_develops sound (obtains_openPath _ _) ran)
  | openOwn name => exact simple (holdNew_develops sound (obtains_openPath _ _) ran)
  | openProcess pid name => exact simple (holdNew_develops sound (obtains_openPath _ _) ran)
  | duplicate handle name =>
      refine simple (withSlot_develops (fun slot member ranUse => ?_) ran)
      have genuine := sound.genuine slot.handle (Scene.mem_of_slot member)
      exact holdNew_develops sound (obtains_duplicate genuine) ranUse
  | close handle =>
      exact simple (withOwnSlot_develops (fun slot member => closeSlot_develops member) ran)
  | drop handle =>
      exact simple (withOwnSlot_develops (fun slot _ => dropSlot_develops) ran)
  | info handle =>
      refine simple (withSlot_develops (fun slot member ranUse => ?_) ran)
      cases ranUse
      exact develops_of_inert rfl rfl
  | home => cases home <;> exact inert inert_pure ran
  | duplicateHome name =>
      cases home with
      | none => exact inert inert_pure ran
      | some home =>
          have genuine := sound.genuine home (List.mem_append_left _ (inner home rfl))
          exact simple (holdNew_develops sound (obtains_duplicate genuine) ran)
  | identity => exact inert (inert_bind (inert_op ownIdentity_calls.inode) fun _ => inert_pure) ran
  | device device action => exact inert actOnDevice_inert ran
  | runInside entry program ending resume =>
      refine runEntry_course (fun {home more} here => program.run_keeps ?_)
        (fun _ _ _ _ _ _ _ _ here settled ranRun => program.run_course ?_ settled ranRun) sound ran
      all_goals
        intro handle same
        cases same
        exact here
  | thread program =>
      obtain ⟨result, ⟨middle, between⟩, ranThread, ranRest⟩ := Task.bind_ran.mp ran
      cases ranRest
      obtain ⟨worker, ranWorker, rfl⟩ := Task.onNewThread_ran ranThread
      have begun : (Scene.of held (before, session)).Develops
          (.of held ({ before with thread := before.thread.spawned }, session)) :=
        develops_of_inert rfl rfl
      have settled := sound.develop begun sound.accounts
      have course := program.run_course inner settled ranWorker
      have ended := course.last_sound settled
      have back : (Scene.of held (worker, left)).Develops
          (.of held ({ worker with thread := before.thread }, left)) := develops_of_inert rfl rfl
      exact .step (begun.next (.refl _)) settled (course.append (.single ended back ended.accounts))
  | plugin request stdin => exact inert invokePlugin_inert ran
  | badPlugin error => exact inert inert_pure ran
  | arm fault =>
      have same (kernel : Kernel) : (kernel.arm fault).identities = kernel.identities := rfl
      exact inert (change_inert same) ran
  | disarm =>
      have same (kernel : Kernel) : kernel.disarm.identities = kernel.identities := rfl
      exact inert (change_inert same) ran
  | putFile path node =>
      have same (kernel : Kernel) : (kernel.putFile path node).identities = kernel.identities := rfl
      exact inert (changeFile_inert same) ran
  | removeFile path =>
      have same (kernel : Kernel) : (kernel.removeFile path).identities = kernel.identities := rfl
      exact inert (changeFile_inert same) ran
  | putDevice location device =>
      have same (kernel : Kernel) : (kernel.putDevice location device).identities = kernel.identities :=
        Kernel.identities_modifyDevices
      exact inert (change_inert same) ran
  | removeDevice location name =>
      have same (kernel : Kernel) : (kernel.removeDevice location name).identities = kernel.identities :=
        Kernel.identities_modifyDevices
      exact inert (change_inert same) ran
  | dropPrivilege =>
      cases ran
      exact simple (develops_of_inert rfl rfl)
  | unknown => exact inert inert_pure ran

theorem Program.run_course (program : Program V) {home : Option Handle} {held : List Handle}
    {foreign : List Descriptor} {before after : Machine} {session left : Session V}
    {result : List (Answer V) × Flow V} (inner : ∀ handle ∈ home, handle ∈ held)
    (sound : (Scene.of held (before, session)).Sound foreign)
    (ran : program.run home (before, session) = (result, after, left)) :
    Scene.Course foreign (.of held (before, session)) (program.scenes home held (before, session))
      (.of held (after, left)) := by
  cases program with
  | done =>
      cases ran
      exact .done _
  | step strict action rest =>
      obtain ⟨reaction, ⟨middle, between⟩, ranAction, ranRest⟩ := step_ran ran
      have first := action.run_course inner sound ranAction
      have settled := first.last_sound sound
      rw [Program.scenes, ranAction]
      rcases reaction with ⟨content, _ | failure⟩ | payload <;> cases strict
      case answered.some.true =>
        obtain ⟨-, ⟨⟩⟩ := ranRest
        exact first
      case unwound.true | unwound.false =>
        obtain ⟨-, ⟨⟩⟩ := ranRest
        exact first
      all_goals
        obtain ⟨answers, flow, ranProgram, -⟩ := ranRest
        exact first.append (rest.run_course inner settled ranProgram)

end

end NetSwitch.Scenario
