import NetSwitch.Proofs.Device
import NetSwitch.Proofs.Plugin.Run
import NetSwitch.Proofs.Switch.Way

/-! A command of the plugin and its thread: the command fails with a restore failure exactly if
its thread is left in another namespace. -/

namespace NetSwitch.Plugin

variable {before middle after : Machine} {op : Op (Except NetSwitch.Error α)}

/-- What is known of a thread that was idle: it is tainted if it was stranded, and otherwise it
is idle where it was. -/
structure Honest (stranded : Prop) (before after : Machine) : Prop where
  tainted : stranded → after.thread.state = .tainted
  home : ¬ stranded → after.thread.state = .idle ∧
    after.thread.location = before.thread.location

namespace Honest

variable {stranded : Prop}

theorem tainted_iff (honest : Honest stranded before after) :
    stranded ↔ after.thread.state = .tainted := by
  refine ⟨honest.tainted, fun tainted => Classical.byContradiction fun silent => ?_⟩
  cases tainted.symm.trans (honest.home silent).1

theorem of_thread (idle : before.thread.state = .idle) (unmoved : after.thread = before.thread)
    (home : ¬ stranded) : Honest stranded before after :=
  ⟨fun is => absurd is home, fun _ => by rw [unmoved]; exact ⟨idle, rfl⟩⟩

theorem trans_thread (honest : Honest stranded before middle)
    (unmoved : after.thread = middle.thread) : Honest stranded before after := by
  obtain ⟨tainted, home⟩ := honest
  rw [← unmoved] at tainted home
  exact ⟨tainted, home⟩

theorem of_start (start : Machine) (unmoved : middle.thread = start.thread)
    (honest : Honest stranded middle after) : Honest stranded start after := by
  obtain ⟨tainted, home⟩ := honest
  rw [unmoved] at home
  exact ⟨tainted, home⟩

end Honest

/-- Whether an outcome is a failure to go back. -/
def Stranded (outcome : Outcome Empty NetSwitch.Error α) : Prop :=
  ∃ e, outcome = .failed e ∧ e.isRestoreFailure = true

/-- An operation that leaves its thread and the descriptors as they were and has no restore
failure among its errors. -/
def Innocent (op : Op (Except NetSwitch.Error α)) : Prop :=
  ∀ {before answer after}, op before = (answer, after) →
    before.Quiet after ∧ ∀ e, answer = .error e → e.isRestoreFailure = false

/-- A switch around an innocent operation is itself all that can strand its thread. -/
theorem run_honest [Owns α] {destination : Handle} {outcome : Outcome Empty NetSwitch.Error α}
    {rest : Unit} (innocent : Innocent op) (idle : before.thread.state = .idle)
    (backed : destination.Backed before.kernel) (resolves : before.kernel.ResolvesOwn)
    (ran : Switch.run destination (body op) (before, ()) = (outcome, after, rest)) :
    Honest (Stranded outcome) before after := by
  rcases Switch.run_ran.mp ran with
    ⟨e, entering, rfl, -⟩ | ⟨home, there, inner, left, entering, ranBody, leaving⟩
  · refine .of_thread idle ((Switch.enter_error entering).quiet backed).thread ?_
    intro told
    obtain ⟨_, ⟨⟩, restore⟩ := told
    exact Bool.false_ne_true ((Switch.enter_error entering).not_restore.symm.trans restore)
  · obtain ⟨target, own, location, entered⟩ := Switch.enter_entered entering
    obtain ⟨answer, ranOp, rfl, -⟩ := body_ran.mp ranBody
    obtain ⟨quiet, errors⟩ := innocent ranOp
    obtain ⟨restored, returns, rfl⟩ := Switch.leave_returns entered.owns leaving
    cases returns with
    | back origin same thread moved =>
        rw [quiet.network?, entered.origin resolves] at same
        cases same
        refine ⟨?_, fun _ => by rw [thread]; exact ⟨rfl, rfl⟩⟩
        intro told
        obtain ⟨e, failed, restore⟩ := told
        rcases answer with e | value
        · cases failed
          exact absurd restore (by simp [errors e rfl])
        · cases failed
    | stranded errno thread failed =>
        refine ⟨fun _ => by rw [thread], fun home => absurd ?_ home⟩
        cases answer <;> exact ⟨_, rfl, rfl⟩

theorem runAtPath_honest [Owns α] {path : Path} {outcome : Outcome Empty NetSwitch.Error α}
    {rest : Unit} (innocent : Innocent op) (idle : before.thread.state = .idle)
    (resolves : before.kernel.ResolvesOwn)
    (ran : Switch.runAtPath path (body op) (before, ()) = (outcome, after, rest)) :
    Honest (Stranded outcome) before after := by
  rcases Switch.runAtPath_ran.mp ran with
    ⟨e, opening, rfl, -⟩ | ⟨destination, opened, inner, left, opening, ranRun, closing⟩
  · rcases Handle.openPath_ran opening with ⟨_, ⟨⟩, quiet⟩ | ⟨_, _, _, _, made, _⟩
    · refine .of_thread idle quiet.thread ?_
      intro told
      obtain ⟨_, ⟨⟩, restore⟩ := told
      exact Bool.false_ne_true ((Handle.openPath_not_restore opening).symm.trans restore)
    · cases made
  · rcases Handle.openPath_ran opening with ⟨_, failed, _⟩ | ⟨_, own, file, _, ⟨⟩, owns, _, makes⟩
    · cases failed
    have honest := run_honest innocent (by rw [makes.works.thread, idle])
      (Handle.backed_of_mem owns makes.mem_opened) (resolves.of_files makes.works.files) ranRun
    obtain ⟨trails, closes⟩ := Switch.closeAfter_closes closing
    have settled := (honest.of_start before makes.works.thread).trans_thread trails.thread
    cases closes with
    | kept outcome => exact settled
    | refused value path errno =>
        refine ⟨?_, fun _ => settled.home ?_⟩
        · intro told
          obtain ⟨_, ⟨⟩, restore⟩ := told
          cases restore
        · intro told
          obtain ⟨_, ⟨⟩, -⟩ := told

/-- Whether an answer of the plugin says that its thread could not go back. -/
def TellsOfStranding (answer : Except Error α) : Prop :=
  ∃ e, answer = .error e ∧ e.isRestoreFailure = true

theorem not_tells_ok {value : α} : ¬ TellsOfStranding (.ok value) := by
  intro told
  obtain ⟨e, ⟨⟩, -⟩ := told

theorem tells_error {e : Error} :
    TellsOfStranding (.error e : Except Error α) ↔ e.isRestoreFailure = true := by
  simp [TellsOfStranding]

theorem tells_toExcept {outcome : Outcome Empty NetSwitch.Error α} :
    TellsOfStranding ((Outcome.toExcept outcome).mapError .library) ↔ Stranded outcome := by
  rcases outcome with value | e | ⟨⟨⟩⟩
  · exact iff_of_false not_tells_ok (fun told => by obtain ⟨e, ⟨⟩, -⟩ := told)
  · refine tells_error.trans ?_
    simp [Stranded, Error.isRestoreFailure]

theorem Honest.congr {stranded other : Prop} (honest : Honest stranded before after)
    (same : other ↔ stranded) : Honest other before after :=
  ⟨fun is => honest.tainted (same.mp is), fun not => honest.home fun is => not (same.mpr is)⟩

theorem result_honest [Owns α] {path : Path} {answer : Except Error α} (innocent : Innocent op)
    (idle : before.thread.state = .idle) (resolves : before.kernel.ResolvesOwn)
    (ran : result (Switch.runAtPath path (body op)) before = (answer, after)) :
    Honest (TellsOfStranding answer) before after := by
  obtain ⟨outcome, rest, ranTask, rfl⟩ := result_ran.mp ran
  exact (runAtPath_honest innocent idle resolves ranTask).congr tells_toExcept

variable {request : Request} {answer : Except Error Reply}

theorem add_honest {version : String} (idle : before.thread.state = .idle)
    (resolves : before.kernel.ResolvesOwn)
    (ran : add request version before = (answer, after)) :
    Honest (TellsOfStranding answer) before after := by
  rcases add_ran ran with ⟨-, ⟨text, rfl⟩, rfl⟩ | ⟨netns, found, -, ranInside, rfl⟩
  · exact .of_thread idle rfl (by simp [tells_error, Error.isRestoreFailure])
  · have honest := result_honest Device.bring_ran idle resolves ranInside
    rcases found with e | ⟨⟩
    · exact honest.congr (by simp only [Except.map, tells_error])
    · exact honest.congr (iff_of_false not_tells_ok not_tells_ok)

theorem check_honest (idle : before.thread.state = .idle) (resolves : before.kernel.ResolvesOwn)
    (ran : check request before = (answer, after)) :
    Honest (TellsOfStranding answer) before after := by
  rcases check_ran ran with ⟨-, ⟨text, rfl⟩, rfl⟩ | ⟨netns, found, -, ranInside, rfl⟩
  · exact .of_thread idle rfl (by simp [tells_error, Error.isRestoreFailure])
  · have honest := result_honest Device.state_ran idle resolves ranInside
    rcases found with e | _ | _
    · exact honest.congr (by simp only [tells_error])
    · exact honest.congr (iff_of_false not_tells_ok not_tells_ok)
    · exact honest.congr (iff_of_false (by simp [tells_error, Error.isRestoreFailure]) not_tells_ok)

theorem unopened_not_tells {e : NetSwitch.Error} (other : e.isRestoreFailure = false) :
    ¬ TellsOfStranding (unopened e) := by
  cases e <;> simp [unopened, TellsOfStranding, Error.isRestoreFailure, other]

theorem tornDown_tells {outcome : Except Error Unit} {closed : Except NetSwitch.Error Unit}
    (other : ∀ e, closed = .error e → e.isRestoreFailure = false) :
    TellsOfStranding (tornDown outcome closed) ↔ TellsOfStranding outcome := by
  rcases outcome with e | ⟨⟩
  · simp only [tornDown, tells_error]
  · refine iff_of_false ?_ not_tells_ok
    rcases closed with e | ⟨⟩
    · simp [tornDown, tells_error, Error.isRestoreFailure, other e rfl]
    · exact not_tells_ok

theorem del_honest (idle : before.thread.state = .idle) (resolves : before.kernel.ResolvesOwn)
    (ran : del request before = (answer, after)) : Honest (TellsOfStranding answer) before after := by
  rcases del_ran ran with ⟨-, rfl, alike⟩ | ⟨netns, -, ⟨e, opened, opening, rfl, alike⟩ |
    ⟨destination, opened, outcome, left, closed, opening, ranInside, closing, rfl⟩⟩
  · exact .of_thread idle alike.thread not_tells_ok
  · have trails := (Handle.openPath_trails opening).trans alike.quiet.trails
    exact .of_thread idle trails.thread (unopened_not_tells (Handle.openPath_not_restore opening))
  · rcases Handle.openPath_ran opening with ⟨_, failed, -⟩ | ⟨_, own, file, -, ⟨⟩, owns, -, makes⟩
    · cases failed
    obtain ⟨inside, rest, ranTask, rfl⟩ := result_ran.mp ranInside
    have honest := run_honest Device.bring_ran (by rw [makes.works.thread, idle])
      (Handle.backed_of_mem owns makes.mem_opened) (resolves.of_files makes.works.files) ranTask
    have settled := ((honest.congr tells_toExcept).of_start before makes.works.thread).trans_thread
      (Handle.close_trails closing).thread
    refine settled.congr (tornDown_tells ?_)
    intro e failed
    subst failed
    obtain ⟨errno, rfl⟩ := Handle.close_error closing
    rfl

theorem perform_honest {version : String} (idle : before.thread.state = .idle)
    (resolves : before.kernel.ResolvesOwn)
    (ran : perform request version before = (answer, after)) :
    Honest (TellsOfStranding answer) before after := by
  unfold perform at ran
  cases command : request.command with
  | add =>
      rw [command] at ran
      exact add_honest idle resolves ran
  | del =>
      rw [command] at ran
      exact del_honest idle resolves ran
  | check =>
      rw [command] at ran
      exact check_honest idle resolves ran
  | version =>
      rw [command] at ran
      cases ran
      exact .of_thread idle rfl not_tells_ok

theorem run_honestly {stdin : Bytes} (idle : before.thread.state = .idle)
    (resolves : before.kernel.ResolvesOwn) (ran : run request stdin before = (answer, after)) :
    Honest (TellsOfStranding answer) before after := by
  obtain ⟨noted, -, alike, ranRest⟩ := run_ran ran
  split at ranRest
  · obtain ⟨rfl, rfl⟩ := ranRest
    exact .of_thread idle alike.thread (by simp [tells_error, Error.isRestoreFailure])
  · obtain ⟨performed, ranPerform, rest⟩ := ranRest
    have honest := perform_honest (by rw [alike.thread, idle]) (resolves.of_files alike.quiet.files)
      ranPerform
    exact (honest.of_start before alike.thread).trans_thread rest.thread

/-- A thread that could not go back is never passed over in silence and never made up.  In every
way of running code, the failure to go back is what the way comes to unless the code was
unwound; and a command of the plugin, run by an idle thread, fails with it exactly if the
thread is tainted, and leaves the thread where it was otherwise. -/
theorem stranding_told :
    (∀ {σ π ε α : Type} [OfError ε] [Owns α] (way : Switch.Way) (body : Switch.Body σ π ε α)
      (machine : Machine) (own : σ), ∃ outcome after rest,
        way.run body (machine, own) = (outcome, after, rest) ∧
        way.Candid body machine own outcome after rest) ∧
    ∀ (request : Request) (stdin : Bytes) (machine : Machine), machine.thread.state = .idle →
      machine.kernel.ResolvesOwn → ∃ answer after,
        run request stdin machine = (answer, after) ∧
        (TellsOfStranding answer ↔ after.thread.state = .tainted) ∧
        (¬ TellsOfStranding answer → after.thread.state = .idle ∧
          after.thread.location = machine.thread.location) := by
  refine ⟨fun way body machine own => ?_, fun request stdin machine idle resolves => ?_⟩
  · exact ⟨_, _, _, rfl, way.run_candid rfl⟩
  · cases ran : run request stdin machine with
    | mk answer after =>
        have honest := run_honestly idle resolves ran
        exact ⟨answer, after, rfl, honest.tainted_iff, honest.home⟩

/-- A host with a namespace file for a second namespace, and on which the second move of a
thread fails. -/
def unreturning : Machine :=
  { Machine.host with
    kernel := (Machine.host.kernel.putFile (Bytes.ofString "/pod")
      (.namespaceFile { target := .network "pod" })).arm
      { kind := .setns, errno := .notPermitted, skip := 1 } }

theorem stranding_told_by_add :
    unreturning.thread.state = .idle ∧ unreturning.kernel.ResolvesOwn ∧
      TellsOfStranding
        (run { command := .add, netns := some (Bytes.ofString "/pod") } [] unreturning).1 := by
  have resolves : unreturning.kernel.ResolvesOwn := .of_absent (by decide)
  refine ⟨rfl, resolves, ?_⟩
  obtain ⟨answer, after, ran, told, -⟩ := stranding_told.2
    { command := .add, netns := some (Bytes.ofString "/pod") } [] unreturning rfl resolves
  have tainted : (run { command := .add, netns := some (Bytes.ofString "/pod") } []
      unreturning).2.thread.state = .tainted := by decide
  rw [ran] at tainted ⊢
  exact told.mpr tainted

end NetSwitch.Plugin
