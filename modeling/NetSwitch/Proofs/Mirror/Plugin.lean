import NetSwitch.Plugin.Invocation
import NetSwitch.Proofs.Mirror.Switch

/-! The plugin on a machine and on its mirror: it replies the same. -/

namespace NetSwitch.Mirror

open NetSwitch.Plugin

variable {mirror : Mirror}

theorem owning_of_none [Owns α] (none : ∀ value : α, Owns.handles value = []) :
    mirror.Owning (Eq : α → α → Prop) := by
  rintro value _ rfl
  rw [none, List.map_nil]

theorem body {Own : σ → τ → Prop} {Alike : α → β → Prop} {op : Op (Except NetSwitch.Error α)}
    {op' : Op (Except NetSwitch.Error β)} (ops : mirror.Ops (Answered Alike) op op') :
    mirror.Bodies Own Alike (body op) (body op') := by
  intro home
  apply ofOp
  apply InStep.map ops
  intro answer answer' answered
  cases answered with
  | ok alike => exact .returned alike
  | error e => exact .failed e

theorem result {task task' : Task Unit (Outcome Empty NetSwitch.Error α)}
    (tasks : mirror.Tasks Eq (Ended Eq) task task') :
    mirror.Ops (Answered Eq) (result task) (result task') := by
  have alone : mirror.Ops (Ended Eq) (Task.alone task) (Task.alone task') := by
    intro before before' machines
    obtain ⟨ended, left, -⟩ := tasks (show mirror.States Eq (before, ()) (before', ()) from ⟨machines, rfl⟩)
    exact ⟨ended, left⟩
  apply InStep.bind alone
  intro outcome outcome' ended
  cases ended with
  | returned same => exact .pure (.ok same)
  | failed e => exact .pure (.error _)
  | unwound payload => exact payload.elim

theorem add (request : Request) (version : String) :
    mirror.Ops (Answered Eq) (add request version) (add request version) := by
  unfold Plugin.add
  cases request.demandNetns with
  | error e => exact .pure (.error e)
  | ok netns =>
      apply InStep.bind (result (runAtPath (owning_of_none fun _ => rfl) (body (bring _ .up))))
      intro answer answer' answered
      rcases answered with ⟨⟨⟩⟩ | e
      · exact .pure (.ok rfl)
      · exact .pure (.error e)

theorem del (request : Request) : mirror.Ops (Answered Eq) (del request) (del request) := by
  unfold Plugin.del
  cases request.netns? with
  | none => exact .bind (emit _ _) fun _ _ _ => .pure (.ok rfl)
  | some netns =>
      apply InStep.bind (openPath netns)
      intro answer answer' answered
      rcases answered with @⟨destination, _, rfl⟩ | e
      · apply InStep.bind (result (run (owning_of_none fun _ => rfl) (body (bring _ .down))))
        intro outcome outcome' ended
        apply InStep.bind (closeHandle destination)
        intro closing closing' closed
        rcases ended with ⟨⟨⟩⟩ | e
        · rcases closed with ⟨⟨⟩⟩ | e <;> exact .pure (.refl _)
        · exact .pure (.error e)
      · cases e
        case notFound => exact .bind (emit _ _) fun _ _ _ => .pure (.ok rfl)
        all_goals exact .pure (.error _)

theorem check (request : Request) : mirror.Ops (Answered Eq) (check request) (check request) := by
  unfold Plugin.check
  cases request.demandNetns with
  | error e => exact .pure (.error e)
  | ok netns =>
      apply InStep.bind (result (runAtPath (owning_of_none fun _ => rfl) (body (state _))))
      intro answer answer' answered
      rcases answered with @⟨state, _, rfl⟩ | e
      · cases state <;> exact .pure (.refl _)
      · exact .pure (.error e)

theorem perform (request : Request) (version : String) :
    mirror.Ops (Answered Eq) (perform request version) (perform request version) := by
  unfold Plugin.perform
  cases request.command with
  | add => exact add request version
  | del => exact del request
  | check => exact check request
  | version => exact .pure (.ok rfl)

theorem noteStranding (command : Command) (outcome : Except Plugin.Error Reply) :
    mirror.Ops Eq (noteStranding command outcome) (noteStranding command outcome) := by
  unfold Plugin.noteStranding
  cases outcome with
  | ok reply => exact .pure rfl
  | error e =>
      dsimp only
      split
      · exact emit _ _
      · exact .pure rfl

theorem plugin (request : Request) (stdin : Bytes) :
    mirror.Ops (Answered Eq) (Plugin.run request stdin) (Plugin.run request stdin) := by
  apply InStep.bind (emit _ _)
  intro _ _ _
  split
  · exact .pure (.error _)
  · apply InStep.bind (perform request _)
    intro outcome outcome' answered
    have noted : mirror.Ops Eq (Plugin.noteStranding request.command outcome)
        (Plugin.noteStranding request.command outcome') := by
      rcases answered with ⟨⟨⟩⟩ | e <;> exact noteStranding _ _
    exact .bind noted fun _ _ _ => .pure answered

end NetSwitch.Mirror
