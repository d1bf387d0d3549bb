import NetSwitch.Proofs.Plugin.Telling
import NetSwitch.Proofs.Scenario.Homecoming

/-! The failures to go back that a program is told of: each is one that the program itself makes up, or
some thread has been tainted meanwhile. -/

namespace NetSwitch

theorem Handle.duplicate_not_restore {handle : Handle} {before after : Machine} {e : Error}
    (ran : handle.duplicate before = (.error e, after)) : e.isRestoreFailure = false := by
  unfold Handle.duplicate Handle.descriptor at ran
  cases owned : handle.descriptor? with
  | none =>
      rw [owned] at ran
      cases ran
      rfl
  | some descriptor =>
      rw [owned] at ran
      obtain ⟨made, middle, ranDup, ranRest⟩ := Op.bind_ran.mp ran
      cases made <;> cases ranRest
      rfl

theorem ownIdentity_not_restore {before after : Machine} {e : Error}
    (ran : ownIdentity before = (.error e, after)) : e.isRestoreFailure = false := by
  obtain ⟨found, middle, ranStat, ranRest⟩ := Op.bind_ran.mp ran
  cases found <;> cases ranRest
  rfl

theorem Switch.spawnFor_not_restore {destination : Handle} {before after : Machine} {e : Error}
    (ran : spawnFor destination before = (.error e, after)) : e.isRestoreFailure = false := by
  obtain ⟨asked, middle, ranSpawn, ranRest⟩ := Op.bind_ran.mp ran
  cases asked <;> cases ranRest
  rfl

namespace Scenario

/-! ### Errors -/

/-- The error of the library that a failure is. -/
def Failure.errors : Failure V → List Error
  | .library e => [e]
  | .own _ => []

def errorsOf : Outcome String (Failure V) α → List Error
  | .failed failure => failure.errors
  | _ => []

mutual

/-- The errors of the library that an answer tells of, with those of the answers in it. -/
def Content.errors : Content V → List Error
  | .ranInside inner outcome => errorsInside inner ++ errorsOf outcome
  | .thread inner => errorsAll inner
  | .pluginFailed (.library e) _ => [e]
  | .failed e => [e]
  | _ => []

def Answer.errors : Answer V → List Error
  | .mk content _ _ => content.errors

def errorsAll : List (Answer V) → List Error
  | [] => []
  | answer :: rest => answer.errors ++ errorsAll rest

def errorsInside : Option (List (Answer V)) → List Error
  | none => []
  | some answers => errorsAll answers

end

def Reaction.errors : Reaction V → List Error
  | .answered content failure => content.errors ++ failure.toList.flatMap Failure.errors
  | .unwound _ => []

/-- The errors that a program makes up. -/
def Ending.made : Ending V → List Error
  | .failure thrown => thrown.errors
  | _ => []

mutual

def Action.made : Action V → List Error
  | .runInside _ program ending _ => program.made ++ ending.made
  | .thread program => program.made
  | .badPlugin (.library e) => [e]
  | _ => []

def Program.made : Program V → List Error
  | .done => []
  | .step _ action rest => action.made ++ rest.made

end

/-- A moment at which the thread is not stranded. -/
def Moment.Untainted (moment : Moment) : Prop :=
  moment.machine.thread.state ≠ .tainted

variable {Good : Error → Prop}

/-- What runs tells of good errors only, if no thread is stranded meanwhile. -/
def Tells (Good : Error → Prop) (errors : α → List Error) (run : Run V α) (chronicle : Chronicle V) :
    Prop :=
  ∀ ⦃context machine session value after left⦄, run (machine, session) = (value, after, left) →
    (chronicle context (machine, session)).Every Moment.Untainted → ∀ e ∈ errors value, Good e

/-- The same for what is run inside a namespace, which leaves its answers in the session. -/
def Reports (Good : Error → Prop) (run : Run V (Result V)) (chronicle : Chronicle V) : Prop :=
  ∀ ⦃context machine session result after left⦄, session.inner = none →
    run (machine, session) = (result, after, left) →
    (chronicle context (machine, session)).Every Moment.Untainted →
    (∀ e ∈ errorsOf result, Good e) ∧ ∀ e ∈ errorsInside left.inner, Good e

/-! ### Actions that run no code -/

/-- An operation that has no failure to go back among its errors. -/
def Unstranding (op : Op (Except Error α)) : Prop :=
  ∀ ⦃before e after⦄, op before = (.error e, after) → e.isRestoreFailure = false

/-- What runs tells of no failure to go back. -/
def Harmless (run : Run V (Reaction V)) : Prop :=
  ∀ ⦃before session value after left⦄, run (before, session) = (value, after, left) →
    ∀ e ∈ value.errors, e.isRestoreFailure = false

theorem harmless_answer {content : Content V} (none : content.errors = []) :
    Harmless (answer content) := by
  intro before session value after left ran
  cases ran
  simp [Reaction.errors, none]

/-- An operation is reacted to, whose value is answered without any error. -/
theorem harmless_of_react {op : Op (Except Error α)} {run : Run V (Reaction V)} (content : α → Content V)
    (none : ∀ value, (content value).errors = []) (unstranding : Unstranding op)
    (reacts : ∀ {before session value after left}, run (before, session) = (value, after, left) →
      ∃ answer middle, op before = (answer, middle) ∧ value = react answer content) :
    Harmless run := by
  intro before session value after left ran e member
  obtain ⟨answer, middle, ranOp, rfl⟩ := reacts ran
  cases answer with
  | ok found => simp [react, Reaction.errors, none] at member
  | error found =>
      have same : e = found := by
        simpa [react, Reaction.errors, Content.errors, Failure.errors] using member
      exact same ▸ unstranding ranOp

theorem holdNew_harmless {name : String} {op : Op (Except Error Handle)}
    (unstranding : Unstranding op) :
    Harmless (holdNew name op : Run V _) := by
  refine harmless_of_react (fun handle => .handle (Info.of handle)) (fun _ => rfl) unstranding ?_
  intro before session value after left ran
  obtain ⟨made, ⟨middle, _⟩, ranMake, ranRest⟩ := Task.bind_ran.mp ran
  obtain ⟨_, making, ⟨⟩⟩ := Task.ofOp_ran.mp ranMake
  rcases made with e | handle
  · cases ranRest
    exact ⟨.error e, _, making, rfl⟩
  · obtain ⟨_, _, -, ranRest⟩ := Task.bind_ran.mp ranRest
    cases ranRest
    exact ⟨.ok handle, middle, making, rfl⟩

theorem closeSlot_harmless {slot : Slot} : Harmless (closeSlot slot : Run V _) := by
  have unstranding : Unstranding slot.handle.close := fun _ _ _ => Handle.close_not_restore
  refine harmless_of_react (fun _ => .handle (Info.of slot.handle.closed)) (fun _ => rfl) unstranding ?_
  intro before session value after left ran
  obtain ⟨closed, ⟨middle, _⟩, ranClose, ranRest⟩ := Task.bind_ran.mp ran
  obtain ⟨_, closing, ⟨⟩⟩ := Task.ofOp_ran.mp ranClose
  obtain ⟨_, ⟨kept, _⟩, -, ranRest⟩ := Task.bind_ran.mp ranRest
  cases ranRest
  exact ⟨closed, middle, closing, rfl⟩

theorem dropSlot_harmless {slot : Slot} : Harmless (dropSlot slot : Run V _) := by
  intro before session value after left ran
  obtain ⟨_, _, -, ranRest⟩ := Task.bind_ran.mp ran
  obtain ⟨_, _, -, ranRest⟩ := Task.bind_ran.mp ranRest
  exact harmless_answer rfl ranRest

/-- The reaction to an operation is all that an action does. -/
theorem reacting_harmless {op : Op (Except Error α)} {content : α → Content V}
    (none : ∀ value, (content value).errors = []) (unstranding : Unstranding op) :
    Harmless (do return react (← Task.ofOp op) content : Run V _) := by
  refine harmless_of_react content none unstranding ?_
  intro before session value after left ran
  obtain ⟨found, ⟨middle, _⟩, ranOp, ranRest⟩ := Task.bind_ran.mp ran
  obtain ⟨_, making, ⟨⟩⟩ := Task.ofOp_ran.mp ranOp
  cases ranRest
  exact ⟨found, _, making, rfl⟩

theorem withSlot_harmless {name : String} {use : Slot → Run V (Reaction V)}
    (harmless : ∀ slot, Harmless (use slot)) : Harmless (withSlot name use) := by
  intro before session value after left ran
  rcases withSlot_ran ran with ⟨-, rfl, -, -⟩ | ⟨slot, -, ranUse⟩
  · simp [Reaction.errors, Content.errors]
  · exact harmless slot ranUse

theorem withOwnSlot_harmless {name : String} {use : Slot → Run V (Reaction V)}
    (harmless : ∀ slot, Harmless (use slot)) : Harmless (withOwnSlot name use) := by
  refine withSlot_harmless fun slot => ?_
  split
  · exact harmless slot
  · exact harmless_answer rfl

/-- An action that runs no program and no plugin tells of no failure to go back but one that it makes
up. -/
theorem Action.run_harmless (action : Action V) (home : Option Handle) (bare : action.Bare)
    (silent : action.made = []) : Harmless (action.run home) := by
  cases action with
  | runInside entry program ending resume => cases bare
  | thread program => cases bare
  | plugin request stdin => cases bare
  | openPath path name => exact holdNew_harmless fun _ _ _ => Handle.openPath_not_restore
  | openOwn name => exact holdNew_harmless fun _ _ _ => Handle.openPath_not_restore
  | openProcess pid name => exact holdNew_harmless fun _ _ _ => Handle.openPath_not_restore
  | duplicate handle name =>
      exact withSlot_harmless fun _ => holdNew_harmless fun _ _ _ => Handle.duplicate_not_restore
  | close handle => exact withOwnSlot_harmless fun _ => closeSlot_harmless
  | drop handle => exact withOwnSlot_harmless fun _ => dropSlot_harmless
  | info handle => exact withSlot_harmless fun _ => harmless_answer rfl
  | home => cases home <;> exact harmless_answer rfl
  | duplicateHome name =>
      cases home with
      | none => exact harmless_answer rfl
      | some home => exact holdNew_harmless fun _ _ _ => Handle.duplicate_not_restore
  | identity => exact reacting_harmless (fun _ => rfl) fun _ _ _ => ownIdentity_not_restore
  | device device action =>
      cases action with
      | set state => exact reacting_harmless (fun _ => rfl) fun _ _ _ ran => (Device.bring_ran ran).2 _ rfl
      | query => exact reacting_harmless (fun _ => rfl) fun _ _ _ ran => (Device.state_ran ran).2 _ rfl
  | badPlugin error =>
      cases error with
      | library e => cases silent
      | _ => exact harmless_answer rfl
  | _ =>
      intro before session value after left ran
      cases ran
      simp [Reaction.errors, Content.errors]

/-! ### Switches -/

section Switches

variable {context : Context} {machine after : Machine} {session left : Session V}
variable {destination : Handle} {path : Path} {result settled : Result V}
variable {body : Switch.Body (Session V) String (Failure V) (Yield V)} {between : Handle → Chronicle V}
variable (others : ∀ e, e.isRestoreFailure = false → Good e)

include others

theorem good_of_refused {e : Error} (other : e.isRestoreFailure = false) :
    ∀ found ∈ errorsOf (.failed (OfError.ofError e) : Result V), Good found := by
  intro found member
  rw [List.mem_singleton.mp member]
  exact others e other

/-- The end of a switch that did not strand its thread is what the code inside came to. -/
theorem executing_reports (inside : ∀ home, Reports Good (body home) (between home)) :
    Reports Good (Switch.run destination body) (executing destination body between) := by
  intro context machine session result after left clear ran untainted
  rcases Switch.run_ran.mp ran with
    ⟨e, entering, rfl, rfl⟩ | ⟨home, arrival, inner, ended, entering, ranBody, leaving⟩
  · refine ⟨good_of_refused others (Switch.enter_error entering).not_restore, ?_⟩
    simp [clear, errorsInside]
  · obtain ⟨last, member, rfl, -⟩ := end_of_spanning ran
    have home' := untainted.own last member
    have visited := (every_spanning untainted).2
    simp only [switching, entering] at visited
    obtain ⟨told, kept⟩ := inside home clear ranBody (every_spanning visited).2
    obtain ⟨target, own, location, entered⟩ := Switch.enter_entered entering
    obtain ⟨restored, returns, rfl⟩ := Switch.leave_returns entered.owns leaving
    refine ⟨?_, kept⟩
    cases returns with
    | back location origin thread moved =>
        cases inner <;> exact told
    | stranded errno thread failed =>
        exact absurd (by rw [thread]) home'

theorem good_of_closeAfter {handle : Handle} {before : Machine}
    (told : ∀ e ∈ errorsOf result, Good e)
    (closing : Switch.closeAfter handle result before = (settled, after)) :
    ∀ e ∈ errorsOf settled, Good e := by
  obtain ⟨-, closes⟩ := Switch.closeAfter_closes closing
  cases closes with
  | kept outcome => exact told
  | refused value path errno => exact good_of_refused others rfl

theorem runAtPath_reports (inside : ∀ home, Reports Good (body home) (between home)) :
    Reports Good (Switch.runAtPath path body) (executingAtPath path body between) := by
  intro context machine session result after left clear ran untainted
  rcases Switch.runAtPath_ran.mp ran with
    ⟨e, opening, rfl, rfl⟩ | ⟨destination, opened, inner, ended, opening, ranRun, closing⟩
  · refine ⟨good_of_refused others (Handle.openPath_not_restore opening), ?_⟩
    simp [clear, errorsInside]
  · simp only [executingAtPath, opening] at untainted
    obtain ⟨told, kept⟩ := executing_reports others inside clear ranRun untainted
    exact ⟨good_of_closeAfter others told closing, kept⟩

theorem good_of_report (told : ∀ e ∈ errorsOf result, Good e) :
    ∀ e ∈ errorsOf (Switch.report result), Good e := by
  cases result with
  | unwound payload => exact good_of_refused others rfl
  | _ => exact told

theorem enterBy_reports {mode : Mode} (inside : ∀ home, Reports Good (body home) (between home)) :
    Reports Good (enterBy mode destination body) (mode.chronicle destination body between) := by
  intro context machine session result after left clear ran untainted
  cases mode with
  | here => exact executing_reports others inside clear ran untainted
  | onWorker =>
      rcases Switch.runOnWorker_ran.mp ran with
        ⟨e, spawning, rfl, rfl⟩ | ⟨ready, worker, spawning, ranRun, rfl⟩
      · refine ⟨good_of_refused others (Switch.spawnFor_not_restore spawning), ?_⟩
        simp [clear, errorsInside]
      · simp only [Mode.chronicle, spawning] at untainted
        exact executing_reports others inside clear ranRun (History.every_life.mp untainted)
  | detached =>
      rcases Switch.runDetached_ran.mp ran with ⟨e, copying, rfl, rfl⟩ |
        ⟨copy, copied, e, spawned, copying, spawning, -, rfl, rfl⟩ |
        ⟨copy, copied, ready, inner, ended, closing, worker, copying, spawning, ranRun, ranClose, rfl, -⟩
      · refine ⟨good_of_refused others (Handle.duplicate_not_restore copying), ?_⟩
        simp [clear, errorsInside]
      · refine ⟨good_of_refused others (Switch.spawnFor_not_restore spawning), ?_⟩
        simp [clear, errorsInside]
      · simp only [Mode.chronicle, copying, spawning] at untainted
        obtain ⟨told, kept⟩ :=
          executing_reports others inside clear ranRun (History.every_life.mp untainted)
        exact ⟨good_of_report others (good_of_closeAfter others told ranClose), kept⟩

omit others in
/-- What an action answers of a switch is what the code inside answered and came to. -/
theorem reactTo_errors {resume : Bool} {inner : Option (List (Answer V))} {value : Reaction V}
    (told : ∀ e ∈ errorsOf result, Good e) (kept : ∀ e ∈ errorsInside inner, Good e)
    (ran : reactTo resume inner result (machine, session) = (value, after, left)) :
    ∀ e ∈ value.errors, Good e := by
  have both : ∀ e ∈ errorsInside inner ++ errorsOf result, Good e :=
    fun e member => (List.mem_append.mp member).elim (kept e) (told e)
  rcases result with (found | ⟨handle, name⟩) | failure | payload
  · cases ran
    simpa [Reaction.errors, Content.errors, errorsOf] using kept
  · obtain ⟨_, _, -, ranRest⟩ := Task.bind_ran.mp ran
    cases ranRest
    simp [Reaction.errors, Content.errors]
  · cases ran
    simpa [Reaction.errors, Content.errors, errorsOf, or_imp, forall_and, or_assoc] using both
  · cases resume <;> cases ran
    · simpa [Reaction.errors, Content.errors, errorsOf] using kept
    · simp [Reaction.errors]

theorem runEntry_tells {entry : Entry} {resume : Bool}
    (inside : ∀ home, Reports Good (body home) (between home)) :
    Tells Good Reaction.errors (runEntry entry resume body) (entry.chronicle body between) := by
  intro context machine session value after left ran untainted
  cases entry with
  | byPath path =>
      obtain ⟨result, ended, there, ranRun, reacting⟩ := reactToSwitch_ran ran
      obtain ⟨told, kept⟩ := runAtPath_reports others inside rfl ranRun untainted
      exact reactTo_errors told kept reacting
  | byHandle mode name =>
      rcases withSlot_ran ran with ⟨-, rfl, -, -⟩ | ⟨slot, found, ranUse⟩
      · simp [Reaction.errors, Content.errors]
      · obtain ⟨middle, returned, ranSwitch, -⟩ := lending_ran ranUse
        obtain ⟨result, ended, there, ranRun, reacting⟩ := reactToSwitch_ran ranSwitch
        simp only [Entry.chronicle, found] at untainted
        obtain ⟨told, kept⟩ := enterBy_reports others inside rfl ranRun untainted
        exact reactTo_errors told kept reacting

end Switches

/-! ### Programs -/

/-- The errors that a program tells of by its answers and by how it ends. -/
def errorsTold (result : List (Answer V) × Flow V) : List Error :=
  errorsAll result.1 ++ errorsOf result.2

theorem reactToThread_errors {result : List (Answer V) × Flow V} {e : Error}
    (member : e ∈ (reactToThread result).errors) : e ∈ errorsAll result.1 := by
  obtain ⟨answers, flow⟩ := result
  cases flow with
  | unwound payload => cases member
  | _ => simpa [reactToThread, Reaction.errors, Content.errors] using member

section Programs

variable (others : ∀ e, e.isRestoreFailure = false → Good e)

include others

theorem conclude_errors {ending : Ending V} {flow : Flow V} {result : Result V} {before after : Machine}
    (made : ∀ e ∈ ending.made, Good e) (told : ∀ e ∈ errorsOf flow, Good e)
    (ran : conclude ending flow before = (result, after)) : ∀ e ∈ errorsOf result, Good e := by
  cases flow with
  | failed failure =>
      cases ran
      exact told
  | unwound payload =>
      cases ran
      exact told
  | returned value =>
      cases ending with
      | opened path name =>
          obtain ⟨opened, middle, ranOpen, ranRest⟩ := Op.bind_ran.mp ran
          rcases opened with e | handle <;> cases ranRest
          · exact good_of_refused others (Handle.openPath_not_restore ranOpen)
          · exact told
      | failure thrown =>
          cases ran
          exact made
      | value found =>
          cases ran
          exact told
      | panic payload =>
          cases ran
          exact told

theorem programBody_reports {ending : Ending V} {run : Handle → Run V (List (Answer V) × Flow V)}
    {home : Handle} {chronicle : Chronicle V} (made : ∀ e ∈ ending.made, Good e)
    (tells : Tells Good errorsTold (run home) chronicle) :
    Reports Good (programBody ending run home) chronicle := by
  intro context machine session result after left clear ran untainted
  obtain ⟨answers, flow, last, there, ranRun, concluding, rfl⟩ := programBody_ran ran
  obtain ⟨answered, ended⟩ := List.forall_mem_append.mp (tells ranRun untainted)
  exact ⟨conclude_errors others made ended concluding, answered⟩

theorem invokePlugin_tells {request : Plugin.Request} {stdin : Bytes} {chronicle : Chronicle V} :
    Tells Good Reaction.errors (invokePlugin request stdin)
      (spanning (invokePlugin request stdin) chronicle) := by
  intro context machine session value after left ran untainted
  obtain ⟨last, member, rfl, -⟩ := end_of_spanning ran
  have free := untainted.own last member
  obtain ⟨answer, ⟨ended, _⟩, ranPlugin, ranRest⟩ := Task.bind_ran.mp ran
  obtain ⟨_, ranRun, ⟨⟩⟩ := Task.ofOp_ran.mp ranPlugin
  rcases answer with e | reply
  · cases ranRest
    cases e with
    | library e =>
        intro found same
        obtain rfl : found = e := by simpa [Reaction.errors, Content.errors] using same
        cases restore : found.isRestoreFailure with
        | false => exact others found restore
        | true => exact absurd (Plugin.invocation_strands ranRun ⟨_, rfl, restore⟩) free
    | _ => simp [Reaction.errors, Content.errors]
  · cases ranRest
    simp [Reaction.errors, Content.errors]

end Programs

mutual

/-- An action tells of no failure to go back but those that it makes up. -/
theorem Action.run_tells (others : ∀ e, e.isRestoreFailure = false → Good e) (action : Action V)
    (home : Option Handle) (made : ∀ e ∈ action.made, Good e) : Tells Good Reaction.errors (action.run home)
      (spanning (action.run home) (action.chronicle home)) := by
  intro context machine session value after left ran untainted
  have harmless := action.run_harmless home
  cases action with
  | runInside entry program ending resume =>
      obtain ⟨madeWithin, madeLast⟩ := List.forall_mem_append.mp made
      refine runEntry_tells others (fun home => ?_) ran (every_spanning untainted).2
      exact programBody_reports others madeLast (program.run_tells others (some home) madeWithin)
  | thread program =>
      obtain ⟨result, last, ranThread, ranRest⟩ := Task.bind_ran.mp ran
      obtain ⟨-, worked⟩ := every_spanning (History.every_life.mp (every_spanning untainted).2)
      obtain ⟨told, -⟩ := List.forall_mem_append.mp (program.run_tells others home made rfl worked)
      obtain rfl : _ = result := congrArg Prod.fst ranThread
      cases ranRest
      exact fun e member => told e (reactToThread_errors member)
  | plugin request stdin => exact invokePlugin_tells others ran untainted
  | badPlugin error =>
      cases ran
      cases error with
      | library e => simpa [Reaction.errors, Content.errors, Action.made] using made
      | _ => simp [Reaction.errors, Content.errors]
  | _ => exact fun e member => others e (harmless trivial rfl ran e member)

theorem Program.run_tells (others : ∀ e, e.isRestoreFailure = false → Good e) (program : Program V)
    (home : Option Handle) (made : ∀ e ∈ program.made, Good e) :
    Tells Good errorsTold (program.run home) (program.chronicle home) := by
  intro context machine session value after left ran untainted
  cases program with
  | done =>
      cases ran
      simp [errorsTold, errorsAll, errorsOf]
  | step strict action rest =>
      obtain ⟨madeFirst, madeRest⟩ := List.forall_mem_append.mp made
      obtain ⟨reaction, ⟨middle, there⟩, ranAction, ranRest⟩ := step_ran ran
      have acted (untainted : (spanning (action.run home) (action.chronicle home) context
          (machine, session)).Every Moment.Untainted) : ∀ e ∈ reaction.errors, Good e :=
        action.run_tells others home madeFirst ranAction untainted
      have continued {content : Content V} {failure : Option (Failure V)} {answers : List (Answer V)}
          {flow : Flow V} (answered : reaction = .answered content failure)
          (untainted : (spanning (action.run home) (action.chronicle home) context (machine, session) ++
            rest.chronicle home context (middle, there)).Every Moment.Untainted)
          (ranProgram : rest.run home (middle, there) = ((answers, flow), after, left)) :
          ∀ e ∈ errorsTold (Answer.seen content middle :: answers, flow), Good e := by
        obtain ⟨untaintedFirst, untaintedRest⟩ := History.every_append.mp untainted
        subst answered
        obtain ⟨told, -⟩ := List.forall_mem_append.mp (acted untaintedFirst)
        intro e member
        rw [errorsTold, errorsAll, List.append_assoc] at member
        rcases List.mem_append.mp member with first | later
        · exact told e first
        · exact rest.run_tells others home madeRest ranProgram untaintedRest e later
      simp only [Program.chronicle, ranAction] at untainted
      rcases reaction with ⟨content, _ | failure⟩ | payload
      · obtain ⟨answers, flow, ranProgram, rfl⟩ := ranRest
        exact continued rfl untainted ranProgram
      · cases strict with
        | true =>
            obtain ⟨rfl, -⟩ := ranRest
            simpa [errorsTold, errorsAll, errorsOf, Answer.seen, Answer.errors, Reaction.errors]
              using acted untainted
        | false =>
            obtain ⟨answers, flow, ranProgram, rfl⟩ := ranRest
            exact continued rfl untainted ranProgram
      · obtain ⟨rfl, -⟩ := ranRest
        simp [errorsTold, errorsAll, errorsOf]

end

end Scenario

end NetSwitch
