import NetSwitch.Proofs.CommandLine.Output

/-! What a variable of the environment decides: the namespace's path given empty, against not
given at all. -/

namespace NetSwitch.CommandLine

open Json (bind_ok)
open Plugin (Command ErrorReport Configuration defaultVersion)

variable {arguments : List Bytes} {environment : Environment} {draft next : Draft} {value : Bytes}
  {parameter : Parameter} {parameters : List Parameter}

/-- An environment with an empty path of the namespace. -/
def Environment.emptied (environment : Environment) : Environment :=
  (Parameter.netns.variableName, []) :: environment

theorem lookup_emptied (other : parameter ≠ .netns) :
    environment.emptied.lookup parameter.variableName = environment.lookup parameter.variableName := by
  cases parameter
  case netns => exact absurd rfl other
  all_goals rfl

theorem parameterLine_emptied (unset : environment.lookup Parameter.netns.variableName = none) :
    parameterLine environment.emptied = parameterLine environment := by
  funext parameter
  by_cases isNetns : parameter = .netns
  · subst isNetns
    have given : environment.emptied.lookup Parameter.netns.variableName = some [] := rfl
    have nothing : Bytes.display [] = "" := rfl
    simp only [parameterLine, given, unset, Option.map, Option.getD, nothing]
  · simp only [parameterLine, lookup_emptied isNetns]

theorem helpText_emptied (unset : environment.lookup Parameter.netns.variableName = none) :
    helpText environment.emptied = helpText environment := by
  unfold helpText
  rw [parameterLine_emptied unset]

/-! ### Reading the variables in order -/

theorem Draft.setByEnvironment_unset (unset : environment.lookup parameter.variableName = none) :
    draft.setByEnvironment environment (parameter :: parameters) =
      draft.setByEnvironment environment parameters := by
  rw [setByEnvironment, unset]

theorem Draft.setByEnvironment_given (given : environment.lookup parameter.variableName = some value) :
    draft.setByEnvironment environment (parameter :: parameters) =
      if draft.has parameter then draft.setByEnvironment environment parameters
      else draft.set parameter value >>= (·.setByEnvironment environment parameters) := by
  rw [setByEnvironment, given]

theorem Draft.setByEnvironment_append (first second : List Parameter) :
    draft.setByEnvironment environment (first ++ second) =
      draft.setByEnvironment environment first >>= (·.setByEnvironment environment second) := by
  induction first generalizing draft with
  | nil => rfl
  | cons parameter first ih =>
      rw [List.cons_append, setByEnvironment, setByEnvironment]
      split
      · split
        · exact ih
        · cases draft.set parameter _ with
          | error detour => rfl
          | ok next => exact ih
      · exact ih

theorem Draft.setByEnvironment_emptied (others : .netns ∉ parameters) :
    draft.setByEnvironment environment.emptied parameters =
      draft.setByEnvironment environment parameters := by
  induction parameters generalizing draft with
  | nil => rfl
  | cons parameter parameters ih =>
      obtain ⟨other, others⟩ := not_or.mp (mt List.mem_cons.mpr others)
      rw [setByEnvironment, setByEnvironment, lookup_emptied (Ne.symm other)]
      simp only [ih others]

/-- A command line with the variables that come before the namespace's path. -/
def settle (arguments : List Bytes) (environment : Environment) : Except Detour Draft := do
  let progress ← readArguments {} arguments
  let draft ← progress.absorb
  draft.setByEnvironment environment [.command, .containerId]

/-- Whether it comes to the variable of the namespace's path, which no option has given. -/
def looksForNetns (arguments : List Bytes) (environment : Environment) : Bool :=
  match settle arguments environment with
  | .ok draft => !draft.has .netns
  | .error _ => false

theorem parse_settled (arguments : List Bytes) (environment : Environment) :
    parse arguments environment =
      settle arguments environment >>= fun draft =>
        draft.setByEnvironment environment [.netns, .ifname, .args, .path] >>= Draft.toRequest := by
  have split : Parameter.all = [.command, .containerId] ++ [.netns, .ifname, .args, .path] := rfl
  simp only [parse, settle, split, Draft.setByEnvironment_append, bind_assoc]

theorem settle_emptied : settle arguments environment.emptied = settle arguments environment := by
  have others : Parameter.netns ∉ [.command, .containerId] := by decide
  simp only [settle, Draft.setByEnvironment_emptied others]

/-- Only a path that is looked for makes a difference: an empty one is refused. -/
theorem parse_emptied (unset : environment.lookup Parameter.netns.variableName = none) :
    parse arguments environment.emptied =
      if looksForNetns arguments environment then .error (.refused (.valueRequired .netns))
      else parse arguments environment := by
  rw [parse_settled, parse_settled, settle_emptied, looksForNetns]
  cases settle arguments environment with
  | error detour => rfl
  | ok draft =>
      have given : environment.emptied.lookup Parameter.netns.variableName = some [] := rfl
      have others : Parameter.netns ∉ [Parameter.ifname, .args, .path] := by decide
      have refused : draft.set .netns [] = .error (.refused (.valueRequired .netns)) := rfl
      simp only [bind, Except.bind]
      rw [Draft.setByEnvironment_given given,
        Draft.setByEnvironment_unset unset, Draft.setByEnvironment_emptied others, refused]
      by_cases has : draft.has .netns = true
      · simp only [has, if_true, Bool.not_true, Bool.false_eq_true, if_false]
      · simp [has, bind, Except.bind]

/-! ### Where the path of a draft comes from

Only the parameter of the namespace's path sets it, and a parameter that sets something is given. -/

theorem Draft.set_ok (sets : draft.set parameter value = .ok next) :
    next.given = draft.given ++ [parameter] ∧ (parameter ≠ .netns → next.netns = draft.netns) := by
  cases parameter with
  | command =>
      obtain ⟨text, -, sets⟩ := bind_ok.mp sets
      dsimp only at sets
      split at sets <;> cases sets
      exact ⟨rfl, fun _ => rfl⟩
  | netns =>
      unfold set at sets
      dsimp only [Bind.bind, Except.bind] at sets
      split at sets <;> cases sets
      exact ⟨rfl, absurd rfl⟩
  | _ =>
      obtain ⟨text, -, sets⟩ := bind_ok.mp sets
      cases sets
      exact ⟨rfl, fun _ => rfl⟩

def Draft.Sound (draft : Draft) : Prop :=
  draft.has .netns = true ∨ draft.netns = none

theorem Draft.Sound.set (sound : draft.Sound) (sets : draft.set parameter value = .ok next) : next.Sound := by
  obtain ⟨given, kept⟩ := Draft.set_ok sets
  by_cases isNetns : parameter = .netns
  · exact .inl (by simp [has, given, isNetns])
  · rcases sound with found | missing
    · exact .inl (by simpa [has, given] using .inl (by simpa [has] using found))
    · exact .inr ((kept isNetns).trans missing)

theorem Draft.Sound.setByOption {given : Option Bytes} (sound : draft.Sound)
    (sets : draft.setByOption parameter given = .ok next) : next.Sound := by
  cases given with
  | none => cases sets
  | some value =>
      rw [Draft.setByOption] at sets
      split at sets
      · cases sets
      · exact sound.set sets

theorem Draft.Sound.setByEnvironment (sound : draft.Sound)
    (sets : draft.setByEnvironment environment parameters = .ok next) : next.Sound := by
  induction parameters generalizing draft with
  | nil => cases sets; exact sound
  | cons parameter parameters ih =>
      rw [Draft.setByEnvironment] at sets
      split at sets
      · split at sets
        · exact ih sound sets
        · obtain ⟨middle, set, sets⟩ := bind_ok.mp sets
          exact ih (sound.set set) sets
      · exact ih sound sets

theorem absorb_sound {progress : Progress} (sound : progress.draft.Sound)
    (absorbs : progress.absorb = .ok next) : next.Sound := by
  unfold Progress.absorb at absorbs
  split at absorbs
  · exact sound.setByOption absorbs
  · cases absorbs
    exact sound

/-- An option that takes no value leads away from a command. -/
theorem readFlag_ne_ok {progress after : Progress} {name : String} {detour : Detour} {given : Option Bytes} :
    readFlag progress name detour given ≠ .ok after := by
  cases given with
  | none =>
      intro reads
      obtain ⟨draft, -, fails⟩ := bind_ok.mp reads
      cases fails
  | some value => nofun

theorem readLong_sound {progress after : Progress} {name : Bytes} {given : Option Bytes}
    (sound : progress.draft.Sound) (reads : readLong progress name given = .ok after) :
    after.draft.Sound := by
  unfold readLong at reads
  split at reads
  · cases reads
  split at reads
  · exact absurd reads readFlag_ne_ok
  split at reads
  · exact absurd reads readFlag_ne_ok
  split at reads
  · cases reads
  · obtain ⟨draft, absorbs, reads⟩ := bind_ok.mp reads
    have absorbed := absorb_sound sound absorbs
    split at reads
    · obtain ⟨next, sets, reads⟩ := bind_ok.mp reads
      cases reads
      exact absorbed.setByOption sets
    · cases reads
      exact absorbed

theorem readArguments_sound {progress after : Progress} (sound : progress.draft.Sound)
    (reads : readArguments progress arguments = .ok after) : after.draft.Sound := by
  induction arguments generalizing progress with
  | nil => cases reads; exact sound
  | cons argument arguments ih =>
      unfold readArguments at reads
      split at reads
      · split at reads <;> cases reads
        exact sound
      · obtain ⟨middle, read, reads⟩ := bind_ok.mp reads
        exact ih (readLong_sound sound read) reads
      · cases reads
      · split at reads
        · refine ih ?_ reads
          exact sound
        · cases reads

theorem settle_sound (settles : settle arguments environment = .ok draft) : draft.Sound := by
  obtain ⟨progress, reads, settles⟩ := bind_ok.mp settles
  obtain ⟨middle, absorbs, settles⟩ := bind_ok.mp settles
  exact ((absorb_sound (readArguments_sound (.inr rfl) reads) absorbs).setByEnvironment settles)

/-! ### Without a path

What comes of a command line that looks for a path and finds none. -/

abbrev Parameter.IsText (parameter : Parameter) : Prop :=
  parameter = .ifname ∨ parameter = .args ∨ parameter = .path

theorem asText_cases (value : Bytes) :
    (∃ text, asText value = .ok text) ∨ asText value = .error (.refused .invalidText) := by
  unfold asText
  split
  · exact .inl ⟨_, rfl⟩
  · exact .inr rfl

theorem Draft.set_text (draft : Draft) (isText : parameter.IsText) (value : Bytes) :
    (∃ next, draft.set parameter value = .ok next ∧ next.netns = draft.netns) ∨
      draft.set parameter value = .error (.refused .invalidText) := by
  rcases isText with rfl | rfl | rfl <;>
    rcases asText_cases value with ⟨text, isText⟩ | noText <;>
    simp [set, bind, Except.bind, *]

theorem Draft.setByEnvironment_texts (draft : Draft) (environment : Environment)
    (areTexts : ∀ parameter ∈ parameters, parameter.IsText) :
    (∃ next, draft.setByEnvironment environment parameters = .ok next ∧ next.netns = draft.netns) ∨
      draft.setByEnvironment environment parameters = .error (.refused .invalidText) := by
  induction parameters generalizing draft with
  | nil => exact .inl ⟨draft, rfl, rfl⟩
  | cons parameter parameters ih =>
      obtain ⟨isText, areTexts⟩ := List.forall_mem_cons.mp areTexts
      cases given : environment.lookup parameter.variableName with
      | none =>
          rw [setByEnvironment_unset given]
          exact ih draft areTexts
      | some value =>
          rw [setByEnvironment_given given]
          split
          · exact ih draft areTexts
          · rcases draft.set_text isText value with ⟨next, sets, same⟩ | fails
            · rw [sets, ← same]
              exact ih next areTexts
            · exact .inr (by rw [fails]; rfl)

theorem parse_unplaced (unset : environment.lookup Parameter.netns.variableName = none)
    (looks : looksForNetns arguments environment = true) :
    (∃ request, parse arguments environment = .ok request ∧ request.netns = none) ∨
    parse arguments environment = .error (.refused .invalidText) ∨
    ∃ given, parse arguments environment = .error (.refused (.commandRequired given)) := by
  rw [parse_settled]
  unfold looksForNetns at looks
  cases settles : settle arguments environment with
  | error detour => simp [settles] at looks
  | ok draft =>
      have notGiven : draft.has .netns = false := by simpa [settles] using looks
      have missing : draft.netns = none := (settle_sound settles).resolve_left (by simp [notGiven])
      have areTexts : ∀ parameter ∈ [Parameter.ifname, .args, .path], parameter.IsText := by decide
      simp only [bind, Except.bind]
      rw [Draft.setByEnvironment_unset unset]
      rcases draft.setByEnvironment_texts environment areTexts with ⟨next, sets, same⟩ | fails
      · rw [sets]
        cases command : next.command with
        | none => exact .inr (.inr ⟨next.given, by simp [Draft.toRequest, command]⟩)
        | some asked =>
            refine .inl ⟨⟨asked, next.containerId, next.netns, next.ifname, next.args, next.path⟩, ?_, ?_⟩
            · simp only [Draft.toRequest, command]
            · exact same.trans missing
      · rw [fails]
        exact .inr (.inl rfl)

/-- The error with which an empty path is refused. -/
def emptyRefused : Plugin.Error :=
  (UsageError.valueRequired .netns).toPluginError

theorem failure_inj {version version' : String} {e e' : Plugin.Error}
    (same : Exit.failure version e = Exit.failure version' e') :
    e.code = e'.code ∧ e.message = e'.message := by
  obtain ⟨line, told⟩ := failure_line version e
  obtain ⟨line', told'⟩ := failure_line version' e'
  have read := told.read
  rw [congrArg Exit.stdout same, told'.read] at read
  have reports := Except.ok.inj read
  exact ⟨(congrArg ErrorReport.code reports).symm, (congrArg ErrorReport.msg reports).symm⟩

theorem success_status (reply : Plugin.Reply) : (Exit.success reply).status = 0 := by
  cases reply <;> rfl

theorem emptyRefused_ne (command : Command) :
    ("invalid plugin environment: " ++ ("CNI_NETNS is required for " ++ command.display)) ≠
      emptyRefused.message := by
  cases command <;> decide

/-- A command without a path never fails like one that is given an empty path. -/
theorem run_unplaced {request : Plugin.Request} {stdin : Bytes} {before : Machine} {e : Plugin.Error}
    (missing : request.netns = none) (fails : (Plugin.run request stdin before).1 = .error e) :
    ¬ (e.code = emptyRefused.code ∧ e.message = emptyRefused.message) := by
  rintro ⟨code, message⟩
  obtain ⟨answer, after, ran⟩ := Plugin.run_result request stdin before
  obtain ⟨noted, -, -, steps⟩ := Plugin.run_ran ran
  rw [ran] at fails
  obtain rfl : answer = .error e := fails
  split at steps
  · cases steps.1
    exact absurd (show (1 : UInt32) = 4 from code) (by decide)
  · obtain ⟨performed, ranPerform, -⟩ := steps
    have nowhere : request.netns? = none := by rw [Plugin.Request.netns?, missing]; rfl
    have answered := (congrArg Prod.fst ranPerform).symm.trans (Plugin.perform_unplaced nowhere)
    cases asked : request.command <;> rw [asked] at answered <;> cases answered
    · exact emptyRefused_ne .add message
    · exact emptyRefused_ne .check message

theorem runInvocation_unplaced {request : Plugin.Request} {version : String} {stdin : Bytes}
    {before : Machine} (missing : request.netns = none) :
    (runInvocation request stdin before).1 ≠ Exit.failure version emptyRefused := by
  obtain ⟨answer, after, ran⟩ := Plugin.run_result request stdin before
  intro same
  rw [runInvocation, Op.bind_apply, ran] at same
  cases answer with
  | ok reply =>
      have status : (Exit.success reply).status = 1 := congrArg Exit.status same
      rw [success_status] at status
      exact absurd status (by decide)
  | error e => exact run_unplaced missing (congrArg Prod.fst ran) (failure_inj same)

/-- An empty path makes a difference exactly when it is looked for: it is refused before anything
is done, as nothing is that lacks a path. -/
theorem run_emptied (unset : environment.lookup Parameter.netns.variableName = none) (stdin : Bytes)
    (before : Machine) :
    if looksForNetns arguments environment then
      (run arguments environment.emptied stdin before).1 = Exit.failure defaultVersion emptyRefused ∧
        (run arguments environment stdin before).1 ≠ Exit.failure defaultVersion emptyRefused ∧
        before.Alike (run arguments environment.emptied stdin before).2
    else run arguments environment.emptied stdin before = run arguments environment stdin before := by
  split
  case isFalse settled =>
    rw [run, run, parse_emptied unset, if_neg settled, helpText_emptied unset]
  case isTrue looks =>
    refine ⟨?_, ?_, ?_⟩
    · rw [run, parse_emptied unset, if_pos looks]
      rfl
    · rw [run]
      rcases parse_unplaced unset looks with ⟨request, parsed, missing⟩ | parsed | ⟨given, parsed⟩ <;>
        rw [parsed]
      · exact runInvocation_unplaced missing
      · exact fun same => absurd (failure_inj same).2 (by decide)
      · have other : (UsageError.commandRequired []).toPluginError.message ≠ emptyRefused.message := by decide
        exact fun same => other (failure_inj same).2
    · rw [run, parse_emptied unset, if_pos looks]
      exact ⟨rfl, rfl⟩

/-- An environment that asks to tear down, and does not say where. -/
def tearDownAsked : Environment :=
  [("CNI_COMMAND", Bytes.ofString "DEL")]

theorem run_emptied_tearDown :
    tearDownAsked.lookup Parameter.netns.variableName = none ∧
    if looksForNetns [] tearDownAsked then
      (run [] tearDownAsked.emptied [] Machine.host).1 = Exit.failure defaultVersion emptyRefused ∧
        (run [] tearDownAsked [] Machine.host).1 ≠ Exit.failure defaultVersion emptyRefused ∧
        Machine.host.Alike (run [] tearDownAsked.emptied [] Machine.host).2
    else run [] tearDownAsked.emptied [] Machine.host = run [] tearDownAsked [] Machine.host :=
  ⟨rfl, run_emptied rfl [] Machine.host⟩

theorem emptied_differs :
    ¬ ∀ (arguments : List Bytes) (environment : Environment) (stdin : Bytes) (before : Machine),
      environment.lookup Parameter.netns.variableName = none →
        (run arguments environment.emptied stdin before).1 = (run arguments environment stdin before).1 := by
  intro same
  have refused : (run [] tearDownAsked.emptied [] Machine.host).1.status = 1 := rfl
  have done : (run [] tearDownAsked [] Machine.host).1.status = 0 := rfl
  rw [same [] tearDownAsked [] Machine.host rfl, done] at refused
  exact absurd refused (by decide)

end NetSwitch.CommandLine
