import NetSwitch.Plugin.Invocation
import NetSwitch.Proofs.Switch.Run

/-! The steps that an invocation of the plugin consists of. -/

namespace NetSwitch.Plugin

variable {before middle after : Machine} {op : Op (Except NetSwitch.Error α)}

theorem body_ran {home : Handle} {outcome : Outcome Empty NetSwitch.Error α} {own rest : σ} :
    body op home (before, own) = (outcome, after, rest) ↔
      ∃ answer, op before = (answer, after) ∧ outcome = Outcome.ofExcept answer ∧ rest = own := by
  constructor
  · intro ran
    cases ran
    exact ⟨_, rfl, rfl, rfl⟩
  · intro steps
    obtain ⟨answer, ran, rfl, rfl⟩ := steps
    change (Outcome.ofExcept (op before).1, (op before).2, rest) = _
    rw [ran]

theorem result_ran {task : Task Unit (Outcome Empty NetSwitch.Error α)} {answer : Except Error α} :
    result task before = (answer, after) ↔
      ∃ outcome rest, task (before, ()) = (outcome, after, rest) ∧
        answer = (Outcome.toExcept outcome).mapError .library := by
  constructor
  · intro ran
    cases ran
    exact ⟨_, _, rfl, rfl⟩
  · intro steps
    obtain ⟨outcome, rest, ran, rfl⟩ := steps
    change ((Outcome.toExcept (task (before, ())).1).mapError Error.library,
      (task (before, ())).2.1) = _
    rw [ran]

/-- Code of the plugin has nothing to look after, so it does the same for everyone. -/
theorem run_body [Owns α] {destination : Handle} {outcome : Outcome Empty NetSwitch.Error α}
    {own rest : σ} (other : τ)
    (ran : Switch.run destination (body op) (before, own) = (outcome, after, rest)) :
    Switch.run destination (body op) (before, other) = (outcome, after, other) := by
  rcases Switch.run_ran.mp ran with
    ⟨e, entering, made, -⟩ | ⟨home, entered, inner, left, entering, ranBody, leaving⟩
  · exact Switch.run_ran.mpr (.inl ⟨e, entering, made, rfl⟩)
  · obtain ⟨answer, ranOp, rfl, -⟩ := body_ran.mp ranBody
    have same : body op home (entered, other) = (Outcome.ofExcept answer, left, other) :=
      body_ran.mpr ⟨answer, ranOp, rfl, rfl⟩
    exact Switch.run_ran.mpr (.inr ⟨home, entered, _, left, entering, same, leaving⟩)

theorem runAtPath_body [Owns α] {path : Path} {outcome : Outcome Empty NetSwitch.Error α}
    {own rest : σ} (other : τ)
    (ran : Switch.runAtPath path (body op) (before, own) = (outcome, after, rest)) :
    Switch.runAtPath path (body op) (before, other) = (outcome, after, other) := by
  rcases Switch.runAtPath_ran.mp ran with
    ⟨e, opening, made, -⟩ | ⟨destination, opened, inner, left, opening, ranRun, closing⟩
  · exact Switch.runAtPath_ran.mpr (.inl ⟨e, opening, made, rfl⟩)
  · exact Switch.runAtPath_ran.mpr
      (.inr ⟨destination, opened, inner, left, opening, run_body other ranRun, closing⟩)

/-! ### Commands -/

section Commands

variable {request : Request} {version : String} {answer : Except Error Reply}

theorem demandNetns_ran {demanded : Except Error Path} (asked : request.demandNetns = demanded) :
    (request.netns? = none ∧ ∃ text, demanded = .error (.invalidEnvironment text)) ∨
      ∃ netns, request.netns? = some netns ∧ demanded = .ok netns := by
  unfold Request.demandNetns at asked
  cases given : request.netns? with
  | none =>
      rw [given] at asked
      exact .inl ⟨rfl, _, asked.symm⟩
  | some netns =>
      rw [given] at asked
      exact .inr ⟨netns, rfl, asked.symm⟩

theorem add_ran (ran : add request version before = (answer, after)) :
    (request.netns? = none ∧ (∃ text, answer = .error (.invalidEnvironment text)) ∧ after = before) ∨
    ∃ netns found, request.netns? = some netns ∧
      result (Switch.runAtPath netns (body (Device.loopback.bring .up))) before = (found, after) ∧
      answer = found.map fun () => .add (AddReport.loopback version netns) := by
  unfold add at ran
  rcases demandNetns_ran rfl with ⟨missing, text, demanded⟩ | ⟨netns, given, demanded⟩
  · rw [demanded] at ran
    cases ran
    exact .inl ⟨missing, ⟨text, rfl⟩, rfl⟩
  · rw [demanded] at ran
    obtain ⟨found, middle, ranInside, ranRest⟩ := Op.bind_ran.mp ran
    refine .inr ⟨netns, found, given, ?_⟩
    rcases found with e | ⟨⟩ <;> cases ranRest <;> exact ⟨ranInside, rfl⟩

theorem check_ran (ran : check request before = (answer, after)) :
    (request.netns? = none ∧ (∃ text, answer = .error (.invalidEnvironment text)) ∧ after = before) ∨
    ∃ netns found, request.netns? = some netns ∧
      result (Switch.runAtPath netns (body Device.loopback.state)) before = (found, after) ∧
      answer = match found with
        | .error e => .error e
        | .ok .up => .ok .empty
        | .ok .down => .error (.checkFailed Device.loopback.name .down) := by
  unfold check at ran
  rcases demandNetns_ran rfl with ⟨missing, text, demanded⟩ | ⟨netns, given, demanded⟩
  · rw [demanded] at ran
    cases ran
    exact .inl ⟨missing, ⟨text, rfl⟩, rfl⟩
  · rw [demanded] at ran
    obtain ⟨found, middle, ranInside, ranRest⟩ := Op.bind_ran.mp ran
    refine .inr ⟨netns, found, given, ?_⟩
    rcases found with e | _ | _ <;> cases ranRest <;> exact ⟨ranInside, rfl⟩

/-- What taking the device down comes to if its namespace could not be opened. -/
def unopened : NetSwitch.Error → Except Error Reply
  | .notFound _ => .ok .empty
  | e => .error (.library e)

/-- What it comes to otherwise.  An error of closing counts only if there is no other. -/
def tornDown : Except Error Unit → Except NetSwitch.Error Unit → Except Error Reply
  | .error e, _ => .error e
  | .ok (), .error e => .error (.library e)
  | .ok (), .ok () => .ok .empty

/-- There is nothing to go to, or the namespace cannot be opened, or the device is taken down
there and the namespace is closed. -/
theorem del_ran (ran : del request before = (answer, after)) :
    (request.netns? = none ∧ answer = .ok .empty ∧ before.Alike after) ∨
    ∃ netns, request.netns? = some netns ∧
      ((∃ e opened, Handle.openPath netns before = (.error e, opened) ∧ answer = unopened e ∧
          opened.Alike after) ∨
        ∃ destination opened outcome left closed,
          Handle.openPath netns before = (.ok destination, opened) ∧
          result (Switch.run destination (body (Device.loopback.bring .down))) opened =
            (outcome, left) ∧
          destination.close left = (closed, after) ∧ answer = tornDown outcome closed) := by
  unfold del at ran
  cases given : request.netns? with
  | none =>
      rw [given] at ran
      obtain ⟨⟨⟩, middle, ranEmit, ranRest⟩ := Op.bind_ran.mp ran
      cases ranRest
      exact .inl ⟨rfl, rfl, Op.emit_alike ranEmit⟩
  | some netns =>
      rw [given] at ran
      refine .inr ⟨netns, rfl, ?_⟩
      obtain ⟨found, opened, ranOpen, ranRest⟩ := Op.bind_ran.mp ran
      rcases found with e | destination
      · refine .inl ⟨e, opened, ranOpen, ?_⟩
        cases e
        case notFound id =>
          obtain ⟨⟨⟩, last, ranEmit, ranRest⟩ := Op.bind_ran.mp ranRest
          cases ranRest
          exact ⟨rfl, Op.emit_alike ranEmit⟩
        all_goals
          cases ranRest
          exact ⟨rfl, .refl _⟩
      · obtain ⟨outcome, left, ranInside, ranRest⟩ := Op.bind_ran.mp ranRest
        obtain ⟨closed, last, ranClose, ranRest⟩ := Op.bind_ran.mp ranRest
        refine .inr ⟨destination, opened, outcome, left, closed, ranOpen, ranInside, ?_⟩
        rcases outcome with e | ⟨⟩
        · cases ranRest
          exact ⟨ranClose, rfl⟩
        · rcases closed with e | ⟨⟩ <;> cases ranRest <;> exact ⟨ranClose, rfl⟩

/-- What a request without a path comes to, whatever the machine. -/
theorem perform_unplaced (nowhere : request.netns? = none) :
    (perform request version before).1 = match request.command with
      | .del => .ok .empty
      | .version => .ok (.version (.supported version))
      | command => .error (.invalidEnvironment ("CNI_NETNS is required for " ++ command.display)) := by
  cases asked : request.command <;>
    simp only [perform, asked, add, del, check, Request.demandNetns, nowhere] <;>
    rfl

theorem noteStranding_alike {command : Command}
    (ran : noteStranding command answer before = ((), after)) : before.Alike after := by
  unfold noteStranding at ran
  cases answer with
  | ok reply =>
      cases ran
      exact .refl _
  | error e =>
      dsimp only at ran
      split at ran
      · exact Op.emit_alike ran
      · cases ran
        exact .refl _

/-- A version that the plugin does not speak is refused, and in any other the command is
performed. -/
theorem run_ran {stdin : Bytes} (ran : run request stdin before = (answer, after)) :
    ∃ noted, noted = (Op.emit (invocation request (Configuration.read stdin).version) before).2 ∧
      before.Alike noted ∧
      if request.command ≠ .version ∧ !(Configuration.read stdin).isSupported then
        answer = .error (.incompatibleVersion (Configuration.read stdin).version) ∧ after = noted
      else ∃ performed,
        perform request (Configuration.read stdin).version noted = (answer, performed) ∧
          performed.Alike after := by
  obtain ⟨⟨⟩, noted, ranEmit, ranRest⟩ := Op.bind_ran.mp ran
  refine ⟨noted, (congrArg Prod.snd ranEmit).symm, Op.emit_alike ranEmit, ?_⟩
  split at ranRest
  · rename_i refused
    cases ranRest
    rw [if_pos refused]
    exact ⟨rfl, rfl⟩
  · rename_i accepted
    obtain ⟨outcome, performed, ranPerform, ranRest⟩ := Op.bind_ran.mp ranRest
    obtain ⟨⟨⟩, last, ranNote, ranRest⟩ := Op.bind_ran.mp ranRest
    cases ranRest
    rw [if_neg accepted]
    exact ⟨performed, ranPerform, noteStranding_alike ranNote⟩

end Commands

end NetSwitch.Plugin
