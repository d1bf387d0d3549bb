import NetSwitch.Proofs.Scenario.Descriptors
import NetSwitch.Proofs.Scenario.Homed

/-! Every thread of a program is where it began, inside one switch that can bring it back, or
stranded by a move back that failed. -/

namespace NetSwitch.Scenario

open Kernel (Descriptor)

section Switches

variable {birthplace : String} {past : List Moment} {held : List Handle} {context : Context}
variable {foreign : List Descriptor} {machine middle after : Machine} {session left : Session V}
variable {destination : Handle} {path : Path}

theorem spanning_homing [Owns α] {run : Run V α} {chronicle : Chronicle V} {value : α}
    (homed : Homed birthplace past context.stays machine)
    (between : Homing birthplace (past ++ [context.moment (machine, session)])
      (chronicle context (machine, session)) context.stays after)
    (ran : run (machine, session) = (value, after, left)) :
    Homing birthplace past (spanning run chronicle context (machine, session)) context.stays after := by
  have start : Homing birthplace past (.of (context.moment (machine, session))) context.stays machine :=
    .of homed
  have upTo := start.append between
  simp only [spanning, ran]
  exact upTo.append (.of upTo.final)

theorem end_of_spanning [Owns α] {run : Run V α} {chronicle : Chronicle V} {value : α}
    (ran : run (machine, session) = (value, after, left)) :
    ∃ moment ∈ (spanning run chronicle context (machine, session)).own,
      after = moment.machine ∧ moment.stays = context.stays := by
  simp only [spanning, ran]
  exact ⟨_, List.mem_append_right _ (List.mem_singleton_self _), rfl, rfl⟩

theorem every_spanning [Owns α] {run : Run V α} {chronicle : Chronicle V} {holds : Moment → Prop}
    (every : (spanning run chronicle context (machine, session)).Every holds) :
    holds (context.moment (machine, session)) ∧
      (chronicle context (machine, session)).Every holds := by
  obtain ⟨earlier, -⟩ := History.every_append.mp every
  obtain ⟨first, between⟩ := History.every_append.mp earlier
  exact ⟨History.every_of.mp first, between⟩

theorem spanning_homes [Owns α] {run : Run V α} {chronicle : Chronicle V}
    (homes : Homes run chronicle held) : Homes run (spanning run chronicle) held := by
  intro birthplace past context foreign machine session value after left ready resolves ran
  refine spanning_homing ready.homed ?_ ran
  exact homes (ready.later (List.subset_append_left ..)) (every_spanning resolves).2 ran

variable [OfError ε] [Owns α] {body : Switch.Body (Session V) π ε α} {between : Handle → Chronicle V}
variable {outcome : Outcome π ε α}

/-- A thread that enters is idle and at home, and the switch keeps a handle of that; so the move
back, if it succeeds, brings it home. -/
theorem switching_homing (inside : ∀ home, Homes (body home) (between home) (home :: held))
    (ready : Ready birthplace past held context foreign machine session)
    (backed : destination.Backed machine.kernel) (resolvesOwn : machine.kernel.ResolvesOwn)
    (resolves : (switching destination body between context (machine, session)).Every Moment.Resolving)
    (ran : Switch.run destination body (machine, session) = (outcome, after, left)) :
    Homing birthplace past (switching destination body between context (machine, session))
      context.stays after := by
  rcases Switch.run_ran.mp ran with
    ⟨e, entering, -, -⟩ | ⟨home, arrival, inner, last, entering, ranBody, leaving⟩
  · have quiet := (Switch.enter_error entering).quiet backed
    simp only [switching, entering]
    have accounts := ready.accounts.of_quiet quiet
    exact .silent (ready.homed.carry accounts (ready.keeps _) (.of_thread quiet.thread))
  · obtain ⟨target, own, location, entered⟩ := Switch.enter_entered entering
    obtain ⟨outside, there⟩ := ready.homed.of_idle entered.idle
    let stay : Stay := ⟨destination, home, arrival⟩
    have within : (context.inside stay).stays = [stay] := by rw [Context.inside, outside]
    have aims : stay.target = some location := by
      simp only [stay, Stay.target, entered.aims, Option.bind_some, entered.there]
    have settled : Homed birthplace past (context.inside stay).stays arrival := by
      refine .switched stay own ?_ within entered.owns ?_ ?_
      · rw [entered.thread]
      · rw [entered.origin resolvesOwn, there]
      · rw [aims, entered.thread]
    have arrived : Ready birthplace past (home :: held) (context.inside stay) foreign arrival session := by
      refine ⟨?_, ?_, (Switch.enter_accounts ready.accounts backed entering).rebase, settled⟩
      · simp only [Context.inside, ready.same, stay]
      · simp only [within, List.mem_singleton, forall_eq]
        exact List.mem_cons_self ..
    simp only [switching, entering] at resolves ⊢
    have visited := spanning_homes (inside home) arrived resolves ranBody
    -- If the move back fails, the last moment inside the switch is the evidence of it.
    obtain ⟨ended, member, rfl, same⟩ := end_of_spanning ranBody
    obtain ⟨restored, returns, -⟩ := Switch.leave_returns entered.owns leaving
    refine ⟨visited.own, visited.others, ?_⟩
    have homed := visited.final
    rw [within] at homed
    rw [outside]
    exact homed.returned (List.mem_append_right past member) (same.trans within) entered.owns returns

theorem executing_homing (inside : ∀ home, Homes (body home) (between home) (home :: held))
    (ready : Ready birthplace past held context foreign machine session)
    (backed : destination.Backed machine.kernel)
    (resolves : (executing destination body between context (machine, session)).Every Moment.Resolving)
    (ran : Switch.run destination body (machine, session) = (outcome, after, left)) :
    Homing birthplace past (executing destination body between context (machine, session))
      context.stays after := by
  obtain ⟨first, resolves⟩ := every_spanning resolves
  refine spanning_homing ready.homed ?_ ran
  exact switching_homing inside (ready.later (List.subset_append_left ..)) backed first resolves ran

theorem executingAtPath_homing {opened : Machine}
    (inside : ∀ home, Homes (body home) (between home) (home :: destination :: held))
    (ready : Ready birthplace past held context foreign machine session)
    (opening : Handle.openPath path machine = (.ok destination, opened))
    (resolves :
      (executingAtPath path body between context (machine, session)).Every Moment.Resolving)
    (ran : Switch.run destination body (opened, session) = (outcome, after, left)) :
    Homing birthplace past (executingAtPath path body between context (machine, session))
      context.stays after := by
  have made := Handle.openPath_accounts ready.accounts opening
  have holds := ready.holding _ made (.of_thread (Handle.openPath_trails opening).thread)
  simp only [executingAtPath, opening] at resolves ⊢
  exact executing_homing inside holds (made.backed (List.mem_cons_self ..)) resolves ran

theorem runAtPath_homes (accountable : ∀ destination, body.Accountable (destination :: held))
    (inside : ∀ home destination, Homes (body home) (between home) (home :: destination :: held)) :
    Homes (Switch.runAtPath path body) (executingAtPath path body between) held := by
  intro birthplace past context foreign machine session outcome after left ready resolves ran
  rcases Switch.runAtPath_ran.mp ran with
    ⟨e, opening, -, -⟩ | ⟨destination, opened, inner, last, opening, ranRun, closing⟩
  · have made := Handle.openPath_accounts ready.accounts opening
    have unmoved := Machine.Unmoved.of_thread (Handle.openPath_trails opening).thread
    simp only [executingAtPath, opening]
    exact .silent (ready.holding _ made unmoved).homed
  · have made := Handle.openPath_accounts ready.accounts opening
    have done := Switch.run_accounts (accountable destination) made
      (made.backed (List.mem_cons_self ..)) ranRun
    have closed := Switch.closeAfter_accounts (done.rebase.perm List.perm_middle) closing
    have switched := executingAtPath_homing (inside · destination) ready opening resolves ranRun
    have trails := (Switch.closeAfter_closes closing).1
    exact switched.carry closed (ready.keeps_behind _ _) (.of_thread trails.thread)

/-- A switch that a worker makes does not move the thread that waits for it. -/
theorem working_homing {worker : Machine}
    (inside : ∀ home, Homes (body home) (between home) (home :: held))
    (ready : Ready birthplace past held context foreign machine session)
    (backed : destination.Backed machine.kernel)
    (resolves : (working destination body between context (machine, session)).Every Moment.Resolving)
    (ran : Switch.run destination body
      ({ machine with thread := machine.thread.spawned }, session) = (outcome, worker, left))
    (homed : Homed birthplace past context.stays after) :
    Homing birthplace past (working destination body between context (machine, session))
      context.stays after :=
  .waiting homed (executing_homing inside ready.spawned backed (History.every_life.mp resolves) ran)

end Switches

/-! ### Programs -/

section Programs

variable {birthplace : String} {past : List Moment} {held : List Handle} {context : Context}
variable {foreign : List Descriptor} {machine after : Machine} {session left : Session V}
variable {body : Switch.Body (Session V) String (Failure V) (Yield V)} {between : Handle → Chronicle V}

theorem enterBy_homing {mode : Mode} {destination : Handle} {result : Result V}
    (accountable : ∀ more, body.Accountable (more ++ held))
    (inside : ∀ home more, Homes (body home) (between home) (home :: (more ++ held)))
    (ready : Ready birthplace past held context foreign machine session)
    (backed : destination.Backed machine.kernel)
    (resolves :
      (mode.chronicle destination body between context (machine, session)).Every Moment.Resolving)
    (ran : enterBy mode destination body (machine, session) = (result, after, left)) :
    Homing birthplace past (mode.chronicle destination body between context (machine, session))
      context.stays after := by
  have accounts := enterBy_accounts accountable ready.accounts backed ran
  have keeping := ready.keeps_behind (Owns.handles result) (Owns.handles left)
  cases mode with
  | here => exact executing_homing (inside · []) ready backed resolves ran
  | onWorker =>
      have homed := ready.homed.carry accounts keeping (runOnWorker_steady ran)
      rcases Switch.runOnWorker_ran.mp ran with
        ⟨e, spawning, -, -⟩ | ⟨asked, worker, spawning, ranRun, -⟩
      · simp only [Mode.chronicle, spawning]
        exact .silent homed
      · simp only [Mode.chronicle, spawning] at resolves ⊢
        have quiet := Switch.spawnFor_quiet spawning
        have waiting : Ready birthplace past held context foreign asked session :=
          ready.holding [] (ready.accounts.of_quiet quiet) (.of_thread quiet.thread)
        exact working_homing (inside · []) waiting (backed.of_quiet quiet) resolves ranRun homed
  | detached =>
      have homed := ready.homed.carry accounts keeping (runDetached_steady ran)
      rcases Switch.runDetached_ran.mp ran with ⟨e, copying, -, -⟩ |
        ⟨copy, copied, e, spawned, copying, spawning, -⟩ |
        ⟨copy, copied, asked, inner, last, closing, worker, copying, spawning, ranRun, -⟩
      · simp only [Mode.chronicle, copying]
        exact .silent homed
      · simp only [Mode.chronicle, copying, spawning]
        exact .silent homed
      · simp only [Mode.chronicle, copying, spawning] at resolves ⊢
        have quiet := Switch.spawnFor_quiet spawning
        have joined := (Handle.duplicate_accounts ready.accounts backed copying).of_quiet quiet
        have trails := (Handle.duplicate_trails copying).trans quiet.trails
        have waiting : Ready birthplace past (copy :: held) (context.holding [copy]) foreign asked
            session := ready.holding [copy] joined (.of_thread trails.thread)
        exact working_homing (inside · [copy]) waiting (joined.backed (List.mem_cons_self ..)) resolves
          ranRun homed

theorem reactToSwitch_homing {resume : Bool} {run : Run V (Result V)} {history : History}
    {value : Reaction V} (keeping : ∀ stay ∈ context.stays, stay.home ∈ held)
    (runs : ∀ {result last there},
      run (machine, { session with inner := none }) = (result, last, there) →
      machine.kernel.Accounts foreign (Owns.handles result ++ (held ++ Owns.handles there)) last.kernel)
    (homing : ∀ {result last there},
      run (machine, { session with inner := none }) = (result, last, there) →
      Homing birthplace past history context.stays last)
    (ran : reactToSwitch resume run (machine, session) = (value, after, left)) :
    Homing birthplace past history context.stays after := by
  obtain ⟨result, last, there, ranRun, ranReact⟩ := reactToSwitch_ran ran
  refine (homing ranRun).carry (reactTo_accounts (runs ranRun).rebase ranReact) ?_
    (reactTo_steady ranReact)
  exact fun stay member => List.mem_append_left _ (keeping stay member)

theorem runEntry_homes {entry : Entry} {resume : Bool}
    (accountable : ∀ more, body.Accountable (more ++ held))
    (inside : ∀ home more, Homes (body home) (between home) (home :: (more ++ held))) :
    Homes (runEntry entry resume body) (entry.chronicle body between) held := by
  intro birthplace past context foreign machine session value after left ready resolves ran
  cases entry with
  | byPath path =>
      have cleared := ready.sharing { session with inner := none } rfl
      have accountableAtPath (destination : Handle) : body.Accountable (destination :: held) :=
        accountable [destination]
      have homes : Homes (Switch.runAtPath path body) (executingAtPath path body between) held :=
        runAtPath_homes accountableAtPath fun home destination => inside home [destination]
      exact reactToSwitch_homing ready.keeping
        (Switch.runAtPath_accounts accountableAtPath cleared.accounts) (homes cleared resolves) ran
  | byHandle mode name =>
      rcases withSlot_ran ran with ⟨missing, -, rfl, rfl⟩ | ⟨slot, found, ranUse⟩
      · simp only [Entry.chronicle, missing]
        exact .silent ready.homed
      · obtain ⟨last, there, ranSwitch, ranBack⟩ := lending_ran ranUse
        have backed : slot.handle.Backed machine.kernel := ready.accounts.backed
          (List.mem_append_right held (Registry.mem_handles (Registry.mem_of_slot? found)))
        have entering := ready.sharing { registry := session.registry.lend slot.key, inner := none }
          Registry.handles_lend
        have done : machine.kernel.Accounts foreign ([] ++ (held ++ Owns.handles there)) last.kernel :=
          reactToSwitch_accounts (enterBy_accounts accountable entering.accounts backed) ranSwitch
        simp only [Entry.chronicle, found] at resolves ⊢
        -- The switch may let go of a handle that has lost its name, but of none that it came from.
        have switched := reactToSwitch_homing ready.keeping
          (enterBy_accounts accountable entering.accounts backed)
          (fun ranEnter => enterBy_homing accountable inside entering backed resolves ranEnter) ranSwitch
        have returned := exchange_accounts Registry.handles_takeBack done.rebase ranBack
        exact switched.carry returned (ready.keeps _) (exchange_steady ranBack)

/-- Work that is no switch has nothing happen in it. -/
theorem homes_silent {run : Run V α} (keeps : Keeps run held) (steady : Steady run) :
    Homes run .silent held := by
  intro birthplace past context foreign machine session value after left ready resolves ran
  exact .silent (ready.homed.carry (keeps ready.accounts ran) (ready.keeps _) (steady ran))

theorem programBody_homes {ending : Ending V} {run : Handle → Run V (List (Answer V) × Flow V)}
    {home : Handle} {chronicle : Chronicle V} (keeps : Keeps (run home) held)
    (homes : Homes (run home) chronicle held) : Homes (programBody ending run home) chronicle held := by
  intro birthplace past context foreign machine session value after left ready resolves ran
  obtain ⟨answers, flow, last, there, ranRun, concluding, rfl⟩ := programBody_ran ran
  have concluded := conclude_accounts (keeps ready.accounts ranRun).rebase concluding
  have unmoved := Machine.Unmoved.of_thread (conclude_trails concluding).thread
  exact (homes ready resolves ranRun).carry concluded (ready.keeps_behind _ _) unmoved

/-! ### The plugin -/

section Plugin

variable [Owns α] {op : Op (Except Error α)} {netns : Path} {request : Plugin.Request}

omit [Owns α] in
theorem body_homes {home : Handle} (innocent : Plugin.Innocent op) :
    Homes (Plugin.body op home : Run V _) .silent held := by
  refine homes_silent ?_ ?_
  · intro origin foreign before session value after left accounts ran
    obtain ⟨answer, ranOp, -, rfl⟩ := Plugin.body_ran.mp ran
    exact accounts.of_quiet (innocent ranOp).1
  · intro before session value after left ran
    obtain ⟨answer, ranOp, -, -⟩ := Plugin.body_ran.mp ran
    exact .of_thread (innocent ranOp).1.thread

theorem errand_homing {answer : Except Plugin.Error α} (innocent : Plugin.Innocent op)
    (ownsNothing : ∀ value : α, Owns.handles value = [])
    (ready : Ready birthplace past held context foreign machine session)
    (resolves : (errand netns op context (machine, session)).Every Moment.Resolving)
    (ran : Plugin.result (Switch.runAtPath netns (Plugin.body op)) machine = (answer, after)) :
    Homing birthplace past (errand netns op context (machine, session)) context.stays after := by
  obtain ⟨outcome, _, ranTask, -⟩ := Plugin.result_ran.mp ran
  exact runAtPath_homes (fun _ => Plugin.body_accountable innocent ownsNothing)
    (fun _ _ => body_homes innocent) ready resolves (Plugin.runAtPath_body session ranTask)

omit [Owns α] in
theorem del_homing {answer : Except Plugin.Error Plugin.Reply}
    (ready : Ready birthplace past held context foreign machine session)
    (command : request.command = .del)
    (resolves : (performing request context (machine, session)).Every Moment.Resolving)
    (ran : Plugin.del request machine = (answer, after)) :
    Homing birthplace past (performing request context (machine, session)) context.stays after := by
  rcases Plugin.del_ran ran with ⟨missing, -, alike⟩ | ⟨netns, given, went⟩
  · simp only [performing, command, missing]
    exact .silent
      (ready.holding [] (ready.accounts.of_quiet alike.quiet) (.of_thread alike.thread)).homed
  simp only [performing, command, given] at resolves ⊢
  rcases went with ⟨e, opened, opening, -, alike⟩ |
    ⟨destination, opened, outcome, left, closed, opening, ranInside, closing, -⟩
  · have made := (Handle.openPath_accounts ready.accounts opening).of_quiet alike.quiet
    have trails := (Handle.openPath_trails opening).trans alike.quiet.trails
    simp only [errand, executingAtPath, opening]
    exact .silent (ready.holding _ made (.of_thread trails.thread)).homed
  · obtain ⟨inside, _, ranTask, -⟩ := Plugin.result_ran.mp ranInside
    have ranRun := Plugin.run_body session ranTask
    have made : machine.kernel.Accounts foreign ((destination :: held) ++ Owns.handles session)
        opened.kernel := Handle.openPath_accounts ready.accounts opening
    have done := Switch.run_accounts (Plugin.body_accountable Device.bring_ran fun _ => rfl) made
      (made.backed (List.mem_cons_self ..)) ranRun
    rw [Plugin.handles_eq_nil fun _ => rfl] at done
    have gone : left.kernel.Accounts foreign (held ++ Owns.handles session) after.kernel :=
      Handle.close_accounts done.rebase closing
    have switched := executingAtPath_homing (fun _ => body_homes Device.bring_ran) ready opening
      resolves ranRun
    exact switched.carry gone (ready.keeps _) (.of_thread (Handle.close_trails closing).thread)

omit [Owns α] in
theorem performing_homing {version : String} {answer : Except Plugin.Error Plugin.Reply}
    (ready : Ready birthplace past held context foreign machine session)
    (resolves : (performing request context (machine, session)).Every Moment.Resolving)
    (ran : Plugin.perform request version machine = (answer, after)) :
    Homing birthplace past (performing request context (machine, session)) context.stays after := by
  unfold Plugin.perform at ran
  cases command : request.command <;> rw [command] at ran
  case add =>
    rcases Plugin.add_ran ran with ⟨missing, -, rfl⟩ | ⟨netns, found, given, ranInside, -⟩
    · simp only [performing, command, missing]
      exact .silent ready.homed
    · simp only [performing, command, given] at resolves ⊢
      exact errand_homing Device.bring_ran (fun _ => rfl) ready resolves ranInside
  case del => exact del_homing ready command resolves ran
  case check =>
    rcases Plugin.check_ran ran with ⟨missing, -, rfl⟩ | ⟨netns, found, given, ranInside, -⟩
    · simp only [performing, command, missing]
      exact .silent ready.homed
    · simp only [performing, command, given] at resolves ⊢
      exact errand_homing Device.state_ran (fun _ => rfl) ready resolves ranInside
  case version =>
    cases ran
    simp only [performing, command]
    exact .silent ready.homed

omit [Owns α] in
theorem invoking_homes {stdin : Bytes} :
    Homes (invokePlugin request stdin : Run V _) (invoking request stdin) held := by
  intro birthplace past context foreign machine session value after left ready resolves ran
  obtain ⟨answer, ⟨last, _⟩, ranPlugin, ranRest⟩ := Task.bind_ran.mp ran
  obtain ⟨_, ranRun, ⟨⟩⟩ := Task.ofOp_ran.mp ranPlugin
  obtain rfl : last = after := by cases answer <;> cases ranRest <;> rfl
  obtain ⟨noted, made, alike, ranInvoked⟩ := Plugin.run_ran ranRun
  have started : Ready birthplace past held context foreign noted session :=
    ready.holding [] (ready.accounts.of_quiet alike.quiet) (.of_thread alike.thread)
  simp only [invoking, ← made] at resolves ⊢
  split at ranInvoked
  · obtain ⟨-, rfl⟩ := ranInvoked
    rw [if_pos ‹_›]
    exact .silent started.homed
  · obtain ⟨performed, ranPerform, rest⟩ := ranInvoked
    rw [if_neg ‹_›] at resolves ⊢
    have homing := performing_homing started resolves ranPerform
    have kept := (Plugin.perform_accounts started.accounts ranPerform).rebase.of_quiet rest.quiet
    exact homing.carry kept (ready.keeps _) (.of_thread rest.thread)

end Plugin

mutual

/-- Every action brings every thread to its place. -/
theorem Action.homes (action : Action V) {home : Option Handle} {held : List Handle}
    (inner : ∀ handle ∈ home, handle ∈ held) :
    Homes (action.run home) (action.chronicle home) held := by
  have keeps := action.run_keeps inner
  cases action with
  | runInside entry program ending resume =>
      have within (home : Handle) (more : List Handle) :
          ∀ handle ∈ some home, handle ∈ home :: (more ++ held) := by
        intro handle same
        cases same
        exact List.mem_cons_self ..
      refine runEntry_homes (fun more => ?_) (fun home more => ?_)
      · exact programBody_accountable fun home => program.run_keeps (within home more)
      · refine programBody_homes ?_ ?_
        · exact program.run_keeps (within home more)
        · exact program.homes (within home more)
  | thread program =>
      intro birthplace past context foreign machine session value after left ready resolves ran
      obtain ⟨found, ⟨last, there⟩, ranThread, ranRest⟩ := Task.bind_ran.mp ran
      have steady : Steady ((Action.thread program).run home) :=
        steady_bind onNewThread_steady fun _ => steady_pure
      have homed := ready.homed.carry (keeps ready.accounts ran) (ready.keeps _) (steady ran)
      exact .waiting homed (spanning_homes (program.homes inner) ready.spawned
        (History.every_life.mp resolves) rfl)
  | plugin request stdin => exact invoking_homes
  | _ => exact homes_silent keeps (Action.run_steady _ home trivial)

theorem Program.homes (program : Program V) {home : Option Handle} {held : List Handle}
    (inner : ∀ handle ∈ home, handle ∈ held) :
    Homes (program.run home) (program.chronicle home) held := by
  cases program with
  | done => exact homes_silent keeps_pure steady_pure
  | step strict action rest =>
      intro birthplace past context foreign machine session value after left ready resolves ran
      obtain ⟨reaction, ⟨middle, there⟩, ranAction, ranRest⟩ := step_ran ran
      simp only [Program.chronicle, ranAction] at resolves ⊢
      have acted (resolvesFirst : (spanning (action.run home) (action.chronicle home) context
          (machine, session)).Every Moment.Resolving) :=
        spanning_homes (action.homes inner) ready resolvesFirst ranAction
      have continued {result : List (Answer V) × Flow V}
          (resolvesAll : (spanning (action.run home) (action.chronicle home) context
            (machine, session) ++ rest.chronicle home context (middle, there)).Every Moment.Resolving)
          (ranProgram : rest.run home (middle, there) = (result, after, left)) :
          Homing birthplace past (spanning (action.run home) (action.chronicle home) context
            (machine, session) ++ rest.chronicle home context (middle, there)) context.stays after := by
        obtain ⟨resolvesFirst, resolvesRest⟩ := History.every_append.mp resolvesAll
        have done := action.run_keeps inner ready.accounts ranAction
        have next : Ready birthplace _ held context foreign middle there :=
          ⟨ready.same, ready.keeping, done.rebase, (acted resolvesFirst).final⟩
        exact (acted resolvesFirst).append (rest.homes inner next resolvesRest ranProgram)
      rcases reaction with ⟨content, _ | failure⟩ | payload
      · obtain ⟨answers, flow, ranProgram, -⟩ := ranRest
        exact continued resolves ranProgram
      · cases strict with
        | true =>
            obtain ⟨-, ⟨⟩⟩ := ranRest
            exact acted resolves
        | false =>
            obtain ⟨answers, flow, ranProgram, -⟩ := ranRest
            exact continued resolves ranProgram
      · obtain ⟨-, ⟨⟩⟩ := ranRest
        exact acted resolves

end

/-- Each thread of a program is idle in the namespace where it began; or it is inside a single
switch, which holds a descriptor of that namespace, and is where the switch was to go; or it
was to leave such a switch, the move back failed, and it is tainted and still there.  This is
so at every moment of its life, if at every moment threads that open their own namespaces
find these. -/
theorem Program.lives_homed (program : Program V) (machine : Machine)
    (idle : machine.thread.state = .idle)
    (resolves : ∀ life ∈ program.lives machine, ∀ moment ∈ life.moments,
      moment.machine.kernel.ResolvesOwn) :
    ∀ life ∈ program.lives machine, ∀ past moment future,
      life.moments = past ++ moment :: future →
        Homed life.birthplace past moment.stays moment.machine := by
  have inner : ∀ handle ∈ (none : Option Handle), handle ∈ ([] : List Handle) := by simp
  have ready : Ready machine.thread.location [] [] {} machine.kernel.opened machine
      (Session.fresh : Session V) :=
    ⟨rfl, by simp, .refl machine.kernel, .idle idle rfl rfl⟩
  have homing := spanning_homes (program.homes inner) ready (History.every_lives.mp resolves) rfl
  intro life member past moment future moments
  have homeward : Homeward life.birthplace [] life.moments := by
    rcases List.mem_cons.mp member with rfl | other
    · exact homing.own
    · exact homing.others life other
  rw [moments] at homeward
  exact (homeward_append.mp homeward).2.1

theorem lives_homed_unreturning :
    Plugin.unreturning.thread.state = .idle ∧
      (∀ life ∈ fetching.lives Plugin.unreturning, ∀ moment ∈ life.moments,
        moment.machine.kernel.ResolvesOwn) ∧
      ∃ life ∈ fetching.lives Plugin.unreturning, ∃ past moment future,
        life.moments = past ++ moment :: future ∧ moment.machine.thread.state = .tainted ∧
          Homed life.birthplace past moment.stays moment.machine := by
  have absent : ∀ life ∈ fetching.lives Plugin.unreturning, ∀ moment ∈ life.moments,
      moment.machine.kernel.files.lookup Path.threadSelf = none := by decide +kernel
  have found : ∃ life ∈ fetching.lives Plugin.unreturning, ∃ moment ∈ life.moments,
      moment.machine.thread.state = .tainted := by decide +kernel
  have resolves : ∀ life ∈ fetching.lives Plugin.unreturning, ∀ moment ∈ life.moments,
      moment.machine.kernel.ResolvesOwn := fun life member moment within =>
    .of_absent (absent life member moment within)
  obtain ⟨life, member, moment, within, tainted⟩ := found
  obtain ⟨past, future, moments⟩ := List.append_of_mem within
  exact ⟨rfl, resolves, life, member, past, moment, future, moments, tainted,
    fetching.lives_homed Plugin.unreturning rfl resolves life member past moment future moments⟩

end Programs

end NetSwitch.Scenario
