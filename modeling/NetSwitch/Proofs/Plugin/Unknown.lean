import NetSwitch.Proofs.Handle.Missing
import NetSwitch.Proofs.Plugin.Excursion

/-! The failures that the plugin reports with code 3, which the container runtime takes to mean that
there is no such container.

Two paths are opened on the way into a namespace: the one that was given and, to come back, that of
the thread's own namespace.  Code 3 is reported if one of them leads to no network namespace, but
DEL takes the absence of the first for success.
-/

namespace NetSwitch

namespace Device

variable {device : Device} {desired? : Option LinkState} {before after : Machine}

theorem requestFailure_not_missing {request : String} {errno : Errno} :
    (device.requestFailure request errno).isNotFound = false := by
  unfold requestFailure
  repeat' split
  all_goals rfl

theorem field_not_missing {e : Error} (unnamed : device.field = .error e) : e.isNotFound = false := by
  unfold field at unnamed
  split at unnamed <;> cases unnamed
  rfl

theorem Asked.not_missing {e : Error} (asked : Asked device desired? before after (.error e)) :
    e.isNotFound = false := by
  cases asked with
  | unmade errno making => rfl
  | made socket made used found closed making use closing =>
      cases use with
      | unnamed e naming same => exact field_not_missing naming
      | unread field errno naming reading => exact requestFailure_not_missing
      | unwritten field flags desired errno read naming reading wanted differs writing =>
          exact requestFailure_not_missing

end Device

theorem Switch.restore_not_missing {home : Handle} {e : Error} {before after : Machine}
    (ran : restore home before = (.error e, after)) : e.isNotFound = false := by
  obtain ⟨moved, -, -, -, moving, -⟩ := restore_ran ran
  rcases moveBack_ran moving with ⟨-, -, failed⟩ | ⟨own, report, -, -, failed⟩
  · cases failed
    rfl
  · rcases report with errno | ⟨⟩ <;> cases failed
    rfl

namespace Plugin

variable {before other after : Machine} {netns path : Path} {desired? : Option LinkState}
variable {outcome : Except NetSwitch.Error UInt16} {cause : NetSwitch.Error}

theorem settled_error {found : Except NetSwitch.Error α} {restored closed : Except NetSwitch.Error Unit}
    (failed : settled found restored closed = .error cause) :
    found = .error cause ∨ restored = .error cause ∨ closed = .error cause := by
  rcases found with e | value <;> rcases restored with e' | ⟨⟩ <;> rcases closed with e'' | ⟨⟩ <;>
    cases failed <;> simp

/-- How an opening finds no network namespace on the way into the one at a path.  The thread's own
is opened second, and only by a thread that may be moved. -/
inductive Astray (netns : Path) (before : Machine) : Path → Prop where
  | given (missing : Handle.Missing netns before) : Astray netns before netns
  | own (target : Handle) (opened : Machine)
      (opening : Handle.openPath netns before = (.ok target, opened))
      (idle : before.thread.state = .idle) (missing : Handle.Missing Path.threadSelf opened) :
      Astray netns before Path.threadSelf

theorem Astray.of_alike (astray : Astray netns before path) (alike : before.Alike other) :
    Astray netns other path := by
  cases astray with
  | given missing => exact .given (missing.of_alike alike)
  | own target opened opening idle missing =>
      obtain ⟨left, instead, same⟩ := (Handle.openPath_blind netns).ran alike opening
      exact .own target left instead (by rw [alike.thread, idle]) (missing.of_alike same)

/-- A thread that enters a namespace has found its own, and one that fails to for want of a namespace
has not. -/
theorem own_missing_iff {target : Handle} {opened left : Machine} {id : String}
    (opening : Handle.openPath netns before = (.ok target, opened))
    (entering : Switch.enter target opened = (.error cause, left)) :
    cause = .notFound id ↔ before.thread.state = .idle ∧ Handle.Missing Path.threadSelf opened ∧
      id = Path.threadSelf.display := by
  rcases Handle.openPath_ran opening with ⟨_, failed, -⟩ | ⟨_, goal, _, -, ⟨⟩, owns, -, makes⟩
  · cases failed
  rw [← makes.works.thread, Handle.missing_iff]
  have refused := Switch.enter_error entering
  constructor
  · rintro rfl
    cases refused with
    | lost _ target idle aims looking =>
        obtain ⟨-, rfl, -⟩ := Handle.openPath_notFound.mp looking
        exact ⟨idle, ⟨left, looking⟩, rfl⟩
  · rintro ⟨idle, ⟨found, looking⟩, rfl⟩
    cases refused with
    | reentrant state same => cases idle.symm.trans state
    | tainted state same => cases idle.symm.trans state
    | closed _ closed same => cases owns.symm.trans closed
    | lost _ target _ aims instead => cases looking.symm.trans instead; rfl
    | barred _ _ _ _ _ _ _ _ aims instead => cases looking.symm.trans instead

/-- An excursion fails for want of a network namespace exactly if an opening on the way has found
none. -/
theorem Excursion.astray_iff {id : String} (excursion : Excursion netns desired? before after outcome) :
    outcome = .error (.notFound id) ↔ ∃ path, Astray netns before path ∧ id = path.display := by
  constructor
  · intro failed
    cases excursion with
    | unopened e opening =>
        cases failed
        obtain ⟨whole, rfl, misses⟩ := Handle.openPath_notFound.mp opening
        exact ⟨netns, .given ⟨whole, after, misses⟩, rfl⟩
    | refused e target opened left closed opening entering closing =>
        obtain ⟨idle, missing, named⟩ := (own_missing_iff opening entering).mp (Except.error.inj failed)
        exact ⟨_, .own target opened opening idle missing, named⟩
    | made target home opened entered left back noted found restored closed opening entering asking
        restoring alike closing =>
        -- Whatever comes after the two openings fails for another reason.
        rcases settled_error failed with rfl | rfl | rfl
        · cases asking.not_missing
        · cases Switch.restore_not_missing restoring
        · obtain ⟨errno, same⟩ := Handle.close_error closing
          cases same
  · rintro ⟨path, astray, rfl⟩
    cases astray with
    | given missing =>
        obtain ⟨left, missed⟩ := Handle.missing_iff.mp missing
        cases excursion with
        | unopened e opening => cases missed.symm.trans opening; rfl
        | refused e target opened left closed opening => cases missed.symm.trans opening
        | made target home opened entered left back noted found restored closed opening =>
            cases missed.symm.trans opening
    | own target opened opening idle missing =>
        cases excursion with
        | unopened e instead => cases opening.symm.trans instead
        | refused e _ _ left closed instead entering =>
            cases opening.symm.trans instead
            rw [(own_missing_iff opening entering).mpr ⟨idle, missing, rfl⟩]
        | made _ home _ entered left back noted found restored closed instead entering =>
            cases opening.symm.trans instead
            obtain ⟨looked, lost⟩ := Handle.missing_iff.mp missing
            obtain ⟨-, goal, own, moved, aims, looking, -⟩ := Switch.enter_ok_iff.mp entering
            cases lost.symm.trans looking

/-! ### What the plugin reports -/

variable {request : Request} {stdin : Bytes} {version : String} {answer : Except Error Reply}

theorem code_unknown {e : Error} : e.code = 3 ↔ ∃ id, e = .library (.notFound id) := by
  constructor
  · intro code
    rcases e with _ | _ | _ | e
    case library =>
      cases e
      case notFound id => exact ⟨id, rfl⟩
      all_goals cases code
    all_goals cases code
  · rintro ⟨id, rfl⟩
    rfl

theorem replyTo_library {command : Command} :
    replyTo command version netns outcome = .error (.library cause) ↔ outcome = .error cause := by
  rcases outcome with e | flags
  · simp [replyTo]
  · refine iff_of_false (fun failed => ?_) (by simp)
    cases command <;> cases state : Device.stateOf flags <;> rw [replyTo, state] at failed <;> cases failed

/-- An error of the library is that of an excursion.  DEL makes none if it has found no network
namespace. -/
theorem perform_library (ran : perform request version before = (.error (.library cause), after)) :
    ∃ netns left, request.command ≠ .version ∧ request.netns? = some netns ∧
      Excursion netns request.command.desired? before left (.error cause) ∧
      (request.command = .del → ¬ Handle.Missing netns before) := by
  rcases perform_excursion ran with
    ⟨nowhere, -⟩ | ⟨netns, outcome, left, acts, given, excursion, -, replied | ⟨-, empty, -⟩⟩
  · exfalso
    rcases nowhere with version | missing
    · rw [perform, version] at ran
      cases ran
    · have answered := (congrArg Prod.fst ran).symm.trans (perform_unplaced missing)
      cases asked : request.command <;> rw [asked] at answered <;> cases answered
  · obtain rfl := replyTo_library.mp replied.symm
    refine ⟨netns, left, acts, given, excursion, fun command missing => ?_⟩
    obtain ⟨opened, opening⟩ := Handle.missing_iff.mp missing
    rw [perform, command] at ran
    cases (del_gone given opening ran).1
  · cases empty

/-- Code 3 is reported exactly for a version that is spoken and a namespace that is given, if an
opening on the way there finds no network namespace.  The message names the path. -/
theorem run_unknown_iff (request : Request) (stdin : Bytes) (before : Machine) (e : Error) :
    (run request stdin before).1 = .error e ∧ e.code = 3 ↔
      (Configuration.read stdin).isSupported = true ∧ ∃ netns path,
        request.command ≠ .version ∧ request.netns? = some netns ∧ Astray netns before path ∧
        (request.command = .del → ¬ Handle.Missing netns before) ∧
        e = .library (.notFound path.display) := by
  cases ran : run request stdin before with
  | mk answer after =>
      obtain ⟨noted, -, alike, ranRest⟩ := run_ran ran
      constructor
      · rintro ⟨rfl, code⟩
        obtain ⟨id, rfl⟩ := code_unknown.mp code
        split at ranRest
        · cases ranRest.1
        rename_i accepted
        obtain ⟨performed, ranPerform, -⟩ := ranRest
        obtain ⟨netns, left, acts, given, excursion, there⟩ := perform_library ranPerform
        obtain ⟨path, astray, rfl⟩ := excursion.astray_iff.mp rfl
        refine ⟨by simpa [acts] using accepted, netns, path, acts, given, astray.of_alike alike.symm,
          fun command missing => there command (missing.of_alike alike), rfl⟩
      · rintro ⟨supported, netns, path, acts, given, astray, there, rfl⟩
        refine ⟨?_, rfl⟩
        rw [if_neg (by simp [supported])] at ranRest
        obtain ⟨performed, ranPerform, -⟩ := ranRest
        rcases perform_excursion ranPerform with
          ⟨version | missing, -⟩ | ⟨_, outcome, left, -, same, excursion, -, replied⟩
        · exact absurd version acts
        · cases given.symm.trans missing
        cases given.symm.trans same
        rw [excursion.astray_iff.mpr ⟨path, astray.of_alike alike, rfl⟩] at replied
        rcases replied with replied | ⟨command, -, id, gone⟩
        · exact replied
        · obtain ⟨whole, -, misses⟩ := Handle.openPath_notFound.mp gone
          exact absurd (Handle.Missing.of_alike ⟨whole, left, misses⟩ alike.symm) (there command)

/-- `neighboured` without a file for the thread's own namespace. -/
def homeless : Machine :=
  { neighboured with kernel := neighboured.kernel.putFile Path.threadSelf (.failing .noEntry) }

/-- The namespace that is given is there, and ADD, CHECK and DEL all report that it is not. -/
theorem found_unknown :
    (Handle.openPath (Bytes.ofString "/pod") homeless).1.isOk = true ∧
      ∀ command ∈ [Command.add, .check, .del], ∃ e,
        (run { command, netns := some (Bytes.ofString "/pod") } [] homeless).1 = .error e ∧
          e.code = 3 := by
  refine ⟨rfl, ?_⟩
  intro command listed
  simp only [List.mem_cons, List.not_mem_nil, or_false] at listed
  rcases listed with rfl | rfl | rfl <;>
    exact ⟨.library (.notFound Path.threadSelf.display), by decide +kernel, rfl⟩

end Plugin

end NetSwitch
