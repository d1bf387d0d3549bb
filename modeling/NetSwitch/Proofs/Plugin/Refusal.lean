import NetSwitch.Proofs.Device
import NetSwitch.Proofs.Plugin.Run
import NetSwitch.Proofs.Switch.Refusal

/-! The plugin with its switches made by a standing: within a switch it is refused as any other
code is. -/

namespace NetSwitch.Standing

open Plugin

def add (standing : Standing) (request : Request) (version : String) :
    Op (Except Plugin.Error Reply) := do
  match request.demandNetns with
  | .error e => return .error e
  | .ok netns =>
      match ← result (standing.runAtPath netns (body (Device.loopback.bring .up))) with
      | .error e => return .error e
      | .ok () => return .ok (.add (AddReport.loopback version netns))

def del (standing : Standing) (request : Request) : Op (Except Plugin.Error Reply) := do
  match request.netns? with
  | none =>
      Op.emit ⟨.info, .plugin, "no network namespace given, nothing to tear down", []⟩
      return .ok .empty
  | some netns =>
      match ← Handle.openPath netns with
      | .error (.notFound _) =>
          Op.emit ⟨.info, .plugin, "network namespace already gone",
            [("netns", .text netns.display)]⟩
          return .ok .empty
      | .error e => return .error (.library e)
      | .ok destination =>
          let outcome ← result (standing.run destination (body (Device.loopback.bring .down)))
          let closed ← destination.close
          match outcome, closed with
          | .error e, _ => return .error e
          | .ok (), .error e => return .error (.library e)
          | .ok (), .ok () => return .ok .empty

def check (standing : Standing) (request : Request) : Op (Except Plugin.Error Reply) := do
  match request.demandNetns with
  | .error e => return .error e
  | .ok netns =>
      match ← result (standing.runAtPath netns (body Device.loopback.state)) with
      | .error e => return .error e
      | .ok .up => return .ok .empty
      | .ok .down => return .error (.checkFailed Device.loopback.name .down)

def perform (standing : Standing) (request : Request) (version : String) :
    Op (Except Plugin.Error Reply) :=
  match request.command with
  | .add => standing.add request version
  | .del => standing.del request
  | .check => standing.check request
  | .version => return .ok (.version (VersionReport.supported version))

/-- `Plugin.run`, with the switches of a standing. -/
def plugin (standing : Standing) (request : Request) (stdin : Bytes) :
    Op (Except Plugin.Error Reply) := do
  let conf := Configuration.read stdin
  Op.emit (invocation request conf.version)
  if request.command ≠ .version ∧ !conf.isSupported then
    return .error (.incompatibleVersion conf.version)
  else do
    let outcome ← standing.perform request conf.version
    noteStranding request.command outcome
    return outcome

variable {standing : Standing}

theorem ops_emit (event : Log.Event) : standing.Ops (Op.emit event) (Op.emit event) :=
  ops_of_trails fun ran => (Op.emit_ran ran).trails

theorem tasks_body {op : Op (Except NetSwitch.Error α)}
    (trails : ∀ {before answer after}, op before = (answer, after) → before.Trails after) (home : Handle) :
    standing.Tasks (body op home : Task σ _) (body op home) :=
  tasks_ofOp (InStep.map (ops_of_trails trails) fun _ _ same => congrArg Outcome.ofExcept same)

theorem bring_trails {desired : LinkState} {before after : Machine} {answer : Except NetSwitch.Error Unit}
    (ran : Device.loopback.bring desired before = (answer, after)) : before.Trails after :=
  (Device.bring_ran ran).1.trails

theorem state_trails {before after : Machine} {answer : Except NetSwitch.Error LinkState}
    (ran : Device.loopback.state before = (answer, after)) : before.Trails after :=
  (Device.state_ran ran).1.trails

theorem ops_result {task other : Task Unit (Outcome Empty NetSwitch.Error α)}
    (tasks : standing.Tasks task other) : standing.Ops (result task) (result other) := by
  have alone : standing.Ops (Task.alone task) (Task.alone other) := by
    rintro machine _ ⟨rfl, admitted⟩
    obtain ⟨same, left, stays⟩ := agree_at tasks (machine, ()) admitted
    exact ⟨same, congrArg Prod.fst left, stays⟩
  apply InStep.bind alone
  rintro outcome _ rfl
  exact .pure rfl

theorem ops_add (request : Request) (version : String) :
    standing.Ops (Plugin.add request version) (standing.add request version) := by
  unfold Plugin.add add
  cases request.demandNetns with
  | error e => exact .pure rfl
  | ok netns =>
      apply InStep.bind (ops_result (tasks_runAtPath (tasks_body bring_trails)))
      rintro answer _ rfl
      rcases answer with e | ⟨⟩ <;> exact .pure rfl

theorem ops_check (request : Request) :
    standing.Ops (Plugin.check request) (standing.check request) := by
  unfold Plugin.check check
  cases request.demandNetns with
  | error e => exact .pure rfl
  | ok netns =>
      apply InStep.bind (ops_result (tasks_runAtPath (tasks_body state_trails)))
      rintro answer _ rfl
      rcases answer with e | _ | _ <;> exact .pure rfl

theorem ops_del (request : Request) : standing.Ops (Plugin.del request) (standing.del request) := by
  unfold Plugin.del del
  cases request.netns? with
  | none =>
      apply InStep.bind (ops_emit _)
      exact fun _ _ _ => .pure rfl
  | some netns =>
      apply InStep.bind (ops_of_trails Handle.openPath_trails)
      rintro opened _ rfl
      rcases opened with e | destination
      · cases e
        case notFound id =>
          apply InStep.bind (ops_emit _)
          exact fun _ _ _ => .pure rfl
        all_goals exact .pure rfl
      · apply InStep.bind (ops_result (tasks_run (tasks_body bring_trails)))
        rintro outcome _ rfl
        apply InStep.bind (ops_of_trails Handle.close_trails)
        rintro closed _ rfl
        rcases outcome with e | ⟨⟩ <;> rcases closed with e' | ⟨⟩ <;> exact .pure rfl

theorem ops_perform (request : Request) (version : String) :
    standing.Ops (Plugin.perform request version) (standing.perform request version) := by
  unfold Plugin.perform perform
  cases request.command with
  | add => exact ops_add request version
  | del => exact ops_del request
  | check => exact ops_check request
  | version => exact .pure rfl

/-- The plugin comes to the same whether its switches within a switch are refused or not made. -/
theorem ops_plugin (request : Request) (stdin : Bytes) :
    standing.Ops (Plugin.run request stdin) (standing.plugin request stdin) := by
  apply InStep.bind (ops_emit _)
  rintro ⟨⟩ _ rfl
  split
  · exact .pure rfl
  · apply InStep.bind (ops_perform request _)
    rintro outcome _ rfl
    apply InStep.bind (ops_of_trails fun ran => (noteStranding_alike ran).quiet.trails)
    exact fun _ _ _ => .pure rfl

end NetSwitch.Standing
