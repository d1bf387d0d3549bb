import NetSwitch.Proofs.Switch.Run
import NetSwitch.Scenario.Run

/-! The steps that running a program consists of. -/

namespace NetSwitch.Scenario

variable {before after : Machine} {session left : Session V} {name : String} {slot : Slot}

theorem withSlot_ran {use : Slot → Run V (Reaction V)} {value : Reaction V}
    (ran : withSlot name use (before, session) = (value, after, left)) :
    (session.registry.slot? name = none ∧ value = .answered .noHandle none ∧ after = before ∧
      left = session) ∨
    ∃ slot, session.registry.slot? name = some slot ∧
      use slot (before, session) = (value, after, left) := by
  obtain ⟨registry, ⟨looked, seen⟩, ranLook, ranRest⟩ := Task.bind_ran.mp ran
  cases ranLook
  cases found : session.registry.slot? name with
  | none =>
      rw [found] at ranRest
      cases ranRest
      exact .inl ⟨rfl, rfl, rfl, rfl⟩
  | some slot =>
      rw [found] at ranRest
      exact .inr ⟨slot, rfl, ranRest⟩

/-- The registry is changed, and a handle that it lets go of is dropped. -/
theorem exchange_ran {change : Registry → Option Handle × Registry}
    (ran : exchange change (before, session) = ((), after, left)) :
    left.registry = (change session.registry).2 ∧
      match (change session.registry).1 with
      | none => after = before
      | some handle => handle.drop before = ((), after) := by
  obtain ⟨registry, ⟨looked, seen⟩, ranLook, ranRest⟩ := Task.bind_ran.mp ran
  cases ranLook
  obtain ⟨⟨⟩, ⟨set, there⟩, ranSet, ranDrop⟩ := Task.bind_ran.mp ranRest
  cases ranSet
  cases released : (change session.registry).1 with
  | none =>
      rw [released] at ranDrop
      cases ranDrop
      exact ⟨rfl, rfl⟩
  | some handle =>
      rw [released] at ranDrop
      obtain ⟨_, dropping, ⟨⟩⟩ := Task.ofOp_ran.mp ranDrop
      exact ⟨rfl, dropping⟩

theorem lending_ran {run : Run V α} {value : α}
    (ran : lending slot run (before, session) = (value, after, left)) :
    ∃ middle there,
      run (before, { session with registry := session.registry.lend slot.key }) =
        (value, middle, there) ∧
      exchange (·.takeBack slot.key) (middle, there) = ((), after, left) := by
  obtain ⟨⟨⟩, ⟨lent, _⟩, ranLend, ranRest⟩ := Task.bind_ran.mp ran
  cases ranLend
  obtain ⟨found, ⟨middle, there⟩, ranRun, ranRest⟩ := Task.bind_ran.mp ranRest
  obtain ⟨⟨⟩, ⟨returned, last⟩, ranBack, ranRest⟩ := Task.bind_ran.mp ranRest
  cases ranRest
  exact ⟨middle, there, ranRun, ranBack⟩

/-- A switch starts without answers from inside, and what it comes to is reacted to. -/
theorem reactToSwitch_ran {resume : Bool} {run : Run V (Result V)} {value : Reaction V}
    (ran : reactToSwitch resume run (before, session) = (value, after, left)) :
    ∃ result middle there, run (before, { session with inner := none }) = (result, middle, there) ∧
      reactTo resume there.inner result (middle, there) = (value, after, left) := by
  obtain ⟨⟨⟩, ⟨cleared, _⟩, ranClear, ranRest⟩ := Task.bind_ran.mp ran
  cases ranClear
  obtain ⟨result, ⟨middle, there⟩, ranRun, ranRest⟩ := Task.bind_ran.mp ranRest
  obtain ⟨inner, ⟨looked, seen⟩, ranLook, ranReact⟩ := Task.bind_ran.mp ranRest
  cases ranLook
  exact ⟨result, middle, there, ranRun, ranReact⟩

/-- Code that runs a program notes its answers and comes to what the program has come to. -/
theorem programBody_ran {ending : Ending V} {run : Handle → Run V (List (Answer V) × Flow V)}
    {home : Handle} {result : Result V}
    (ran : programBody ending run home (before, session) = (result, after, left)) :
    ∃ answers flow last there, run home (before, session) = ((answers, flow), last, there) ∧
      conclude ending flow last = (result, after) ∧ left = { there with inner := some answers } := by
  obtain ⟨⟨answers, flow⟩, ⟨last, there⟩, ranRun, ranRest⟩ := Task.bind_ran.mp ran
  obtain ⟨⟨⟩, ⟨noted, _⟩, ranNote, ranRest⟩ := Task.bind_ran.mp ranRest
  cases ranNote
  obtain ⟨_, concluding, ⟨⟩⟩ := Task.ofOp_ran.mp ranRest
  exact ⟨answers, flow, last, there, ranRun, concluding, rfl⟩

/-- An answer with what can be seen of a machine. -/
def Answer.seen (content : Content V) (machine : Machine) : Answer V :=
  ⟨content, machine.thread.location, machine.kernel.descriptors.length⟩

/-- A panic ends a program, and so does the failure of a strict action; after any other answer
it goes on. -/
theorem step_ran {strict : Bool} {action : Action V} {rest : Program V} {home : Option Handle}
    {state final : Machine × Session V} {result : List (Answer V) × Flow V}
    (ran : (Program.step strict action rest).run home state = (result, final)) :
    ∃ reaction middle, action.run home state = (reaction, middle) ∧
      match reaction, strict with
      | .unwound payload, _ => result = ([], .unwound payload) ∧ final = middle
      | .answered content (some failure), true =>
          result = ([Answer.seen content middle.1], .failed failure) ∧ final = middle
      | .answered content _, _ => ∃ answers flow,
          rest.run home middle = ((answers, flow), final) ∧
            result = (Answer.seen content middle.1 :: answers, flow) := by
  obtain ⟨reaction, middle, ranAction, ranRest⟩ := Task.bind_ran.mp ran
  refine ⟨reaction, middle, ranAction, ?_⟩
  cases reaction with
  | unwound payload =>
      cases ranRest
      exact ⟨rfl, rfl⟩
  | answered content failure =>
      obtain ⟨answered, seen, ranObserve, ranRest⟩ := Task.bind_ran.mp ranRest
      cases ranObserve
      cases strict <;> cases failure
      case true.some failure =>
        cases ranRest
        exact ⟨rfl, rfl⟩
      all_goals
        obtain ⟨⟨answers, flow⟩, last, ranProgram, ranRest⟩ := Task.bind_ran.mp ranRest
        cases ranRest
        exact ⟨answers, flow, ranProgram, rfl⟩

end NetSwitch.Scenario
