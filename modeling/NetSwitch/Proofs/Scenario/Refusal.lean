import NetSwitch.Proofs.Plugin.Refusal
import NetSwitch.Proofs.Scenario.Steady
import NetSwitch.Proofs.Scenario.Worker

/-! Switches within a switch of the same thread are invisible: a program comes to the same if none of
them is made and each is the error that it would come to.

`runAs` runs a program that way.  It keeps track of whose code runs where: the code of a switch is
within it, and what a worker or a new thread runs is outside of any.
-/

namespace NetSwitch

open Scenario

namespace Standing

def enterBy (standing : Standing) (mode : Mode) (destination : Handle)
    (body : Switch.Body (Session V) String (Failure V) (Yield V)) : Run V (Result V) :=
  match mode with
  | .here => standing.run destination body
  | .onWorker => Switch.runOnWorker destination body
  | .detached => Switch.runDetached destination body

def runEntry (standing : Standing) (entry : Entry) (resume : Bool)
    (body : Switch.Body (Session V) String (Failure V) (Yield V)) : Run V (Reaction V) :=
  match entry with
  | .byPath path => reactToSwitch resume (standing.runAtPath path body)
  | .byHandle mode name =>
      withSlot name fun slot =>
        lending slot (reactToSwitch resume (standing.enterBy mode slot.handle body))

def invokePlugin (standing : Standing) (request : Plugin.Request) (stdin : Bytes) :
    Run V (Reaction V) := do
  match ← Task.ofOp (standing.plugin request stdin) with
  | .ok reply => answer (.replied reply)
  | .error e =>
      let version := (Plugin.Configuration.read stdin).version
      answer (.pluginFailed e (some (Json.encode (Plugin.ErrorReport.ofError version e))))

end Standing

namespace Scenario

mutual

/-- Runs an action on a thread of a standing. -/
def Action.runAs (standing : Standing) : Action V → Option Handle → Run V (Reaction V)
  | .runInside entry program ending resume, _ =>
      standing.runEntry entry resume
        (programBody ending fun home => program.runAs .inside (some home))
  | .thread program, home => do
      return reactToThread (← Task.onNewThread (program.runAs .outside home))
  | .plugin request stdin, _ => standing.invokePlugin request stdin
  | action, home => action.run home

/-- Runs a program on a thread of a standing.  Within a switch, no switch of the thread itself is
made: it is the constant error that the thread has been moved. -/
def Program.runAs (standing : Standing) : Program V → Option Handle → Run V (List (Answer V) × Flow V)
  | .done, _ => return ([], .returned ())
  | .step strict action rest, home => do
      match ← action.runAs standing home with
      | .unwound payload => return ([], .unwound payload)
      | .answered content failure =>
          let answered ← observe content
          match strict, failure with
          | true, some failure => return ([answered], .failed failure)
          | _, _ =>
              let (answers, flow) ← rest.runAs standing home
              return (answered :: answers, flow)

end

end Scenario

namespace Standing

variable {standing : Standing} {body other : Switch.Body (Session V) String (Failure V) (Yield V)}

theorem tasks_of_steady {run : Run V α} (steady : Steady run) : standing.Tasks run run := by
  refine agree_refl fun (machine, session) => ?_
  have ran : run (machine, session) =
      ((run (machine, session)).1, (run (machine, session)).2.1, (run (machine, session)).2.2) := rfl
  exact (steady ran).state

theorem tasks_enterBy {mode : Mode} {destination : Handle}
    (bodies : ∀ home, inside.Tasks (body home) (other home)) :
    standing.Tasks (Scenario.enterBy mode destination body)
      (standing.enterBy mode destination other) := by
  cases mode with
  | here => exact tasks_run bodies
  | onWorker =>
      simp only [enterBy, ← runOnWorker_congr bodies]
      exact tasks_of_steady runOnWorker_steady
  | detached =>
      simp only [enterBy, ← runDetached_congr bodies]
      exact tasks_of_steady runDetached_steady

theorem tasks_reactToSwitch {resume : Bool} {run replaced : Run V (Result V)}
    (tasks : standing.Tasks run replaced) :
    standing.Tasks (reactToSwitch resume run) (reactToSwitch resume replaced) := by
  apply InStep.bind (tasks_of_steady setInner_steady)
  rintro ⟨⟩ _ rfl
  apply InStep.bind tasks
  rintro outcome _ rfl
  apply InStep.bind (tasks_of_steady inner_steady)
  rintro inner _ rfl
  exact tasks_of_steady reactTo_steady

theorem tasks_lending {slot : Slot} {run replaced : Run V (Reaction V)}
    (tasks : standing.Tasks run replaced) :
    standing.Tasks (lending slot run) (lending slot replaced) := by
  apply InStep.bind (tasks_of_steady steady_modifyRegistry)
  rintro ⟨⟩ _ rfl
  apply InStep.bind tasks
  rintro value _ rfl
  apply InStep.bind (tasks_of_steady exchange_steady)
  exact fun _ _ _ => .pure rfl

theorem tasks_runEntry {entry : Entry} {resume : Bool}
    (bodies : ∀ home, inside.Tasks (body home) (other home)) :
    standing.Tasks (Scenario.runEntry entry resume body) (standing.runEntry entry resume other) := by
  cases entry with
  | byPath path => exact tasks_reactToSwitch (tasks_runAtPath bodies)
  | byHandle mode name =>
      apply InStep.bind (tasks_of_steady steady_registry)
      rintro registry _ rfl
      cases registry.slot? name with
      | none => exact .pure rfl
      | some slot => exact tasks_lending (tasks_reactToSwitch (tasks_enterBy bodies))

theorem tasks_invokePlugin (request : Plugin.Request) (stdin : Bytes) :
    standing.Tasks (Scenario.invokePlugin request stdin : Run V _)
      (standing.invokePlugin request stdin) := by
  apply InStep.bind (tasks_ofOp (ops_plugin request stdin))
  rintro answer _ rfl
  cases answer <;> exact .pure rfl

theorem tasks_programBody {ending : Ending V} {run replaced : Handle → Run V (List (Answer V) × Flow V)}
    (tasks : ∀ home, standing.Tasks (run home) (replaced home)) (home : Handle) :
    standing.Tasks (programBody ending run home) (programBody ending replaced home) := by
  apply InStep.bind (tasks home)
  rintro ⟨answers, flow⟩ _ rfl
  apply InStep.bind (tasks_of_steady setInner_steady)
  rintro ⟨⟩ _ rfl
  exact tasks_of_trails conclude_trails

end Standing

namespace Scenario

open Standing

mutual

theorem Action.runAs_tasks (standing : Standing) (action : Action V) (home : Option Handle) :
    standing.Tasks (action.run home) (action.runAs standing home) := by
  cases action with
  | runInside entry program ending resume =>
      exact tasks_runEntry (tasks_programBody fun home => program.runAs_tasks .inside (some home))
  | thread program =>
      have same : program.run home = program.runAs .outside home :=
        agree_outside.mp (program.runAs_tasks .outside home)
      simp only [Action.run, Action.runAs, ← same]
      apply InStep.bind (tasks_of_steady onNewThread_steady)
      rintro found _ rfl
      exact .pure rfl
  | plugin request stdin => exact tasks_invokePlugin request stdin
  | _ => exact tasks_of_steady (Action.run_steady _ home trivial)

theorem Program.runAs_tasks (standing : Standing) (program : Program V) (home : Option Handle) :
    standing.Tasks (program.run home) (program.runAs standing home) := by
  cases program with
  | done => exact .pure rfl
  | step strict action rest =>
      apply InStep.bind (action.runAs_tasks standing home)
      rintro reaction _ rfl
      cases reaction with
      | unwound payload => exact .pure rfl
      | answered content failure =>
          apply InStep.bind (tasks_of_steady observe_steady)
          rintro answered _ rfl
          have continued : standing.Tasks
              (rest.run home >>= fun (answers, flow) => pure (answered :: answers, flow))
              (rest.runAs standing home >>= fun (answers, flow) => pure (answered :: answers, flow)) := by
            apply InStep.bind (rest.runAs_tasks standing home)
            rintro found _ rfl
            exact .pure rfl
          cases strict <;> cases failure
          all_goals first | exact .pure rfl | exact continued

end

/-- On a thread that has been moved or could not be brought back, a switch only fails: nothing
changes, and the code is not run, whatever it is and wherever it was to run.  So of the switches
that a program makes within a switch of the same thread, however deep, there is nothing to be seen
but their error. -/
theorem refusals_invisible :
    (∀ {σ π ε α : Type} [OfError ε] [Owns α] (destination : Handle) (body : Switch.Body σ π ε α)
      (machine : Machine) (own : σ),
      (machine.thread.state = .switched → Switch.run destination body (machine, own) =
        (.failed (OfError.ofError .reentrant), machine, own)) ∧
      (machine.thread.state = .tainted → Switch.run destination body (machine, own) =
        (.failed (OfError.ofError .threadTainted), machine, own))) ∧
    (∀ (program : Program V) (ending : Ending V) (destination : Handle) (machine : Machine)
      (session : Session V),
      Switch.run destination (programBody ending fun home => program.run (some home))
          (machine, session) =
        Switch.run destination (programBody ending fun home => program.runAs .inside (some home))
          (machine, session)) ∧
    ∀ (program : Program V) (home : Option Handle) (machine : Machine) (session : Session V),
      program.run home (machine, session) = program.runAs .outside home (machine, session) := by
  refine ⟨fun destination body machine own => ⟨Switch.run_reentrant, Switch.run_threadTainted⟩,
    fun program ending destination machine session => ?_, fun program home machine session => ?_⟩
  · have bodies (home : Handle) : Standing.inside.Tasks
        (programBody ending (fun home => program.run (some home)) home)
        (programBody ending (fun home => program.runAs .inside (some home)) home) :=
      tasks_programBody (fun home => program.runAs_tasks .inside (some home)) home
    exact congrFun (agree_outside.mp (tasks_run bodies)) _
  · exact congrFun (agree_outside.mp (program.runAs_tasks .outside home)) _

/-- A program that goes into a namespace, and fails if it cannot. -/
def entering : Program Unit :=
  .step true (.runInside (.byPath (Bytes.ofString "/pod")) .done (.value ()) false) .done

/-- A thread that has been moved is refused and so is one that could not be brought back.  Within
the neighbour's namespace the program fails, whether it tries to switch or not. -/
theorem refusals_invisible_entering :
    let moved := { neighbouring with thread := { neighbouring.thread with state := .switched } }
    let stranded := { neighbouring with thread := { neighbouring.thread with state := .tainted } }
    Switch.run neighbour (entering.body (.value ())) (moved, {}) =
        (.failed (.library .reentrant), moved, {}) ∧
      Switch.run neighbour (entering.body (.value ())) (stranded, {}) =
        (.failed (.library .threadTainted), stranded, {}) ∧
      Switch.run neighbour (entering.body (.value ())) (neighbouring, {}) =
        Switch.run neighbour
          (programBody (.value ()) fun home => entering.runAs .inside (some home)) (neighbouring, {}) ∧
      (Switch.run neighbour (entering.body (.value ())) (neighbouring, {})).1 =
        .failed (.library .reentrant) := by
  intro moved stranded
  obtain ⟨refused, replaced, -⟩ := refusals_invisible (V := Unit)
  refine ⟨(refused neighbour (entering.body (.value ())) moved {}).1 rfl,
    (refused neighbour (entering.body (.value ())) stranded {}).2 rfl,
    replaced entering (.value ()) neighbour neighbouring {}, ?_⟩
  decide +kernel

end Scenario

end NetSwitch
