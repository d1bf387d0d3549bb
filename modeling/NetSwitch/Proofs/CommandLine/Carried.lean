import NetSwitch.Proofs.Blind
import NetSwitch.Proofs.CommandLine.Environment
import NetSwitch.Proofs.Plugin.Excursion

/-! The variables that are carried along for the log and mean nothing to the plugin.

Two runs in environments that differ in nothing else go the same way as long as the same of these
variables are texts.  One that is no text is refused, as its parameter has to be one.
-/

namespace NetSwitch

namespace Plugin

variable {first second : Request} {version : String}

theorem perform_congr (command : first.command = second.command) (netns : first.netns = second.netns) :
    perform first version = perform second version := by
  have given : first.netns? = second.netns? := by rw [Request.netns?, netns, Request.netns?]
  have demanded : first.demandNetns = second.demandNetns := by
    rw [Request.demandNetns, given, command, Request.demandNetns]
  simp only [perform, command, add, del, check, given, demanded]

/-- Of a request, only the command and the path of the namespace count. -/
theorem run_congr (command : first.command = second.command) (netns : first.netns = second.netns)
    (stdin : Bytes) (before : Machine) :
    (run first stdin before).1 = (run second stdin before).1 ∧
      (run first stdin before).2.Alike (run second stdin before).2 := by
  cases ranFirst : run first stdin before with
  | mk answer after =>
  cases ranSecond : run second stdin before with
  | mk answer' after' =>
      obtain ⟨noted, -, alike, steps⟩ := run_ran ranFirst
      obtain ⟨noted', -, alike', steps'⟩ := run_ran ranSecond
      rw [← command] at steps'
      split at steps
      · obtain ⟨rfl, rfl⟩ := steps
        rw [if_pos ‹_›] at steps'
        obtain ⟨rfl, rfl⟩ := steps'
        exact ⟨rfl, alike.symm.trans alike'⟩
      · obtain ⟨performed, ranPerform, rest⟩ := steps
        rw [if_neg ‹_›, ← perform_congr command netns] at steps'
        obtain ⟨performed', ranPerform', rest'⟩ := steps'
        obtain ⟨left, instead, same⟩ :=
          (perform_blind first _).ran (alike.symm.trans alike') ranPerform
        cases ranPerform'.symm.trans instead
        exact ⟨rfl, (rest.symm.trans same).trans rest'⟩

end Plugin

namespace CommandLine

open Plugin (Request defaultVersion)

variable {arguments : List Bytes} {environment : Environment} {parameter : Parameter}
  {others : List Parameter}

/-! ### Reading the variables -/

/-- Whether a parameter is carried along for the log. -/
def Parameter.isCarried : Parameter → Bool
  | .command => false
  | .netns => false
  | _ => true

/-- Whether a variable is a text if it is set. -/
def Environment.legible (environment : Environment) (parameter : Parameter) : Bool :=
  (environment.lookup parameter.variableName).all (·.toString?.isSome)

/-- Environments that differ in nothing but what is carried along, and not in which of it is text. -/
structure Environment.Agree (first second : Environment) : Prop where
  interpreted : ∀ parameter : Parameter, parameter.isCarried = false →
    first.lookup parameter.variableName = second.lookup parameter.variableName
  carried : ∀ parameter : Parameter, parameter.isCarried = true →
    first.legible parameter = second.legible parameter

/-- Drafts that differ in nothing but what is carried along and by which parameters, of which those
that are still to be read have been given to both or to neither. -/
structure Draft.Agree (others : List Parameter) (first second : Draft) : Prop where
  command : first.command = second.command
  netns : first.netns = second.netns
  has : ∀ parameter ∈ others, first.has parameter = second.has parameter

namespace Draft

variable {draft first second third next : Draft} {value : Bytes}

theorem Agree.refl (draft : Draft) : Agree others draft draft :=
  ⟨rfl, rfl, fun _ _ => rfl⟩

theorem Agree.symm (agree : Agree others first second) : Agree others second first :=
  ⟨agree.command.symm, agree.netns.symm, fun parameter member => (agree.has parameter member).symm⟩

theorem Agree.trans (agree : Agree others first second) (then_ : Agree others second third) :
    Agree others first third where
  command := agree.command.trans then_.command
  netns := agree.netns.trans then_.netns
  has parameter member := (agree.has parameter member).trans (then_.has parameter member)

theorem Agree.tail (agree : Agree (parameter :: others) first second) : Agree others first second :=
  ⟨agree.command, agree.netns, fun other member => agree.has other (List.mem_cons_of_mem _ member)⟩

/-- Giving a parameter makes a difference to that parameter only, as to what has been given. -/
theorem has_given (sets : next.given = draft.given ++ [parameter]) (other : Parameter) :
    next.has other = (draft.has other || other == parameter) := by
  rw [has, sets, List.contains_append, has, List.contains_cons, List.contains_nil, Bool.or_false]

/-- A value that is carried along has to be a text, and changes nothing else. -/
theorem set_carried (isCarried : parameter.isCarried = true) (fresh : parameter ∉ others)
    (draft : Draft) (value : Bytes) :
    ∃ carry : String → Draft, draft.set parameter value = carry <$> asText value ∧
      ∀ text, Agree others draft (carry text) := by
  have kept : ∀ next : Draft, next.given = draft.given ++ [parameter] →
      ∀ other ∈ others, draft.has other = next.has other := by
    intro next sets other member
    have apart : (other == parameter) = false := beq_false_of_ne fun same => fresh (same ▸ member)
    rw [has_given sets, apart, Bool.or_false]
  cases parameter with
  | command | netns => cases isCarried
  | _ => exact ⟨_, bind_pure_comp _ _, fun text => ⟨rfl, rfl, kept _ rfl⟩⟩

/-- The variable of a parameter that is carried along is refused or it changes nothing else. -/
theorem setByEnvironment_carried (isCarried : parameter.isCarried = true) (fresh : parameter ∉ others)
    (draft : Draft) (environment : Environment) :
    if draft.has parameter || environment.legible parameter then
      ∃ next, draft.setByEnvironment environment [parameter] = .ok next ∧ Agree others draft next
    else draft.setByEnvironment environment [parameter] = .error (.refused .invalidText) := by
  cases given : environment.lookup parameter.variableName with
  | none =>
      have legible : environment.legible parameter = true := by rw [Environment.legible, given]; rfl
      rw [legible, Bool.or_true, if_pos rfl, setByEnvironment_unset given]
      exact ⟨draft, rfl, .refl draft⟩
  | some value =>
      have legible : environment.legible parameter = value.toString?.isSome := by
        rw [Environment.legible, given]; rfl
      rw [legible, setByEnvironment_given given]
      cases has : draft.has parameter with
      | true => exact ⟨draft, rfl, .refl draft⟩
      | false =>
          obtain ⟨carry, sets, carried⟩ := set_carried isCarried fresh draft value
          rw [sets]
          cases text : value.toString? with
          | none => simp [asText, text, bind, Except.bind]
          | some said => exact ⟨carry said, by simp [asText, text, bind, Except.bind, setByEnvironment], carried said⟩

theorem set_agree (agree : Agree others first second) (parameter : Parameter) (value : Bytes) :
    Answered (Agree others) (first.set parameter value) (second.set parameter value) := by
  have grown : ∀ next next' : Draft, next.given = first.given ++ [parameter] →
      next'.given = second.given ++ [parameter] → ∀ other ∈ others, next.has other = next'.has other := by
    intro next next' sets sets' other member
    rw [has_given sets, has_given sets', agree.has other member]
  cases parameter with
  | command =>
      unfold set
      cases asText value with
      | error detour => exact .error detour
      | ok text =>
          dsimp only [Bind.bind, Except.bind]
          cases Plugin.Command.parse text with
          | error e => exact .error _
          | ok command => exact .ok ⟨rfl, agree.netns, grown _ _ rfl rfl⟩
  | netns =>
      unfold set
      dsimp only [Bind.bind, Except.bind]
      split
      · exact .error _
      · exact .ok ⟨agree.command, rfl, grown _ _ rfl rfl⟩
  | _ =>
      unfold set
      cases asText value with
      | error detour => exact .error detour
      | ok text => exact .ok ⟨agree.command, agree.netns, grown _ _ rfl rfl⟩

variable {environment environment' : Environment}

theorem setByEnvironment_agree_one (same : environment.Agree environment') (fresh : parameter ∉ others)
    (agree : Agree (parameter :: others) first second) :
    Answered (Agree others) (first.setByEnvironment environment [parameter])
      (second.setByEnvironment environment' [parameter]) := by
  have has := agree.has parameter List.mem_cons_self
  cases isCarried : parameter.isCarried with
  | true =>
      have read := setByEnvironment_carried isCarried fresh first environment
      have read' := setByEnvironment_carried isCarried fresh second environment'
      rw [← has, ← same.carried parameter isCarried] at read'
      split at read
      · rw [if_pos ‹_›] at read'
        obtain ⟨next, read, kept⟩ := read
        obtain ⟨next', read', kept'⟩ := read'
        rw [read, read']
        exact .ok ((kept.symm.trans agree.tail).trans kept')
      · rw [if_neg ‹_›] at read'
        rw [read, read']
        exact .error _
  | false =>
      have looked := same.interpreted parameter isCarried
      cases given : environment.lookup parameter.variableName with
      | none =>
          rw [setByEnvironment_unset given, setByEnvironment_unset (looked.symm.trans given)]
          exact .ok agree.tail
      | some value =>
          rw [setByEnvironment_given given, setByEnvironment_given (looked.symm.trans given), ← has]
          split
          · exact .ok agree.tail
          · exact (set_agree agree.tail parameter value).bind fun _ _ agree => .ok agree

/-- By induction on the parameters: one that has been read is not looked at again, so it need not have
been given to both. -/
theorem setByEnvironment_agree (same : environment.Agree environment') (once : others.Nodup)
    (agree : Agree others first second) :
    Answered (Agree []) (first.setByEnvironment environment others)
      (second.setByEnvironment environment' others) := by
  induction others generalizing first second with
  | nil => exact .ok agree
  | cons parameter others ih =>
      obtain ⟨fresh, once⟩ := List.nodup_cons.mp once
      rw [← List.singleton_append, setByEnvironment_append, setByEnvironment_append]
      exact (setByEnvironment_agree_one same fresh agree).bind fun _ _ agree => ih once agree

end Draft

/-! ### Runs -/

/-- Readings of a command line that only the log can tell apart. -/
inductive Readings : Except Detour Request → Except Detour Request → Prop where
  | requests {first second : Request} (command : first.command = second.command)
      (netns : first.netns = second.netns) : Readings (.ok first) (.ok second)
  | detours (detour : Detour) : Readings (.error detour) (.error detour)
  | uncommanded (first second : List Parameter) :
      Readings (.error (.refused (.commandRequired first))) (.error (.refused (.commandRequired second)))

theorem Readings.of_drafts {draft draft' : Except Detour Draft}
    (answered : Answered (Draft.Agree others) draft draft') :
    Readings (draft >>= Draft.toRequest) (draft' >>= Draft.toRequest) := by
  cases answered with
  | error detour => exact .detours detour
  | @ok draft draft' agree =>
      show Readings draft.toRequest draft'.toRequest
      unfold Draft.toRequest
      rw [← agree.command]
      split
      · exact .requests rfl agree.netns
      · exact .uncommanded _ _

theorem parse_agree {first second : Environment} (same : first.Agree second) (arguments : List Bytes) :
    Readings (parse arguments first) (parse arguments second) := by
  have once : Parameter.all.Nodup := by decide
  unfold parse
  cases readArguments {} arguments with
  | error detour => exact .detours detour
  | ok progress =>
      cases absorbed : progress.absorb with
      | error detour =>
          simp only [Bind.bind, Except.bind, absorbed]
          exact .detours detour
      | ok draft =>
          simp only [Bind.bind, Except.bind, absorbed]
          exact .of_drafts (Draft.setByEnvironment_agree same once (.refl draft))

theorem Readings.help {reading reading' : Except Detour Request} (readings : Readings reading reading')
    (help : reading = .error .help) : reading' = .error .help := by
  cases readings with
  | detours detour => exact help
  | requests command netns => cases help
  | uncommanded first second => cases help

theorem runInvocation_congr {first second : Request} (command : first.command = second.command)
    (netns : first.netns = second.netns) (stdin : Bytes) (before : Machine) :
    (runInvocation first stdin before).1 = (runInvocation second stdin before).1 ∧
      (runInvocation first stdin before).2.Alike (runInvocation second stdin before).2 := by
  obtain ⟨answers, alike⟩ := Plugin.run_congr command netns stdin before
  cases ran : Plugin.run first stdin before with
  | mk answer after =>
  cases ran' : Plugin.run second stdin before with
  | mk answer' after' =>
      rw [ran, ran'] at answers alike
      obtain rfl : answer = answer' := answers
      rw [runInvocation, runInvocation, Op.bind_apply, Op.bind_apply, ran, ran']
      cases answer with
      | ok reply => exact ⟨rfl, alike⟩
      | error e => exact ⟨rfl, alike.kernel, alike.thread⟩

section Runs

variable {first second : Environment}

theorem run_help (parsed : parse arguments environment = .error .help) (stdin : Bytes) (before : Machine) :
    run arguments environment stdin before = (⟨0, helpText environment⟩, before) := by
  rw [run, parsed]
  rfl

theorem run_refused {e : UsageError} (parsed : parse arguments environment = .error (.refused e))
    (stdin : Bytes) (before : Machine) :
    ∃ noted, run arguments environment stdin before = (.failure defaultVersion e.toPluginError, noted) ∧
      before.Alike noted := by
  refine ⟨(Op.emit ⟨.error, .program, "invalid plugin invocation", [("error", .text e.text)]⟩ before).2, ?_,
    Op.emit_alike rfl⟩
  rw [run, parsed]
  rfl

/-- Of a refusal, no more is reported than the message. -/
theorem run_refused_congr {e e' : UsageError} (parsed : parse arguments first = .error (.refused e))
    (parsed' : parse arguments second = .error (.refused e')) (message : e.message = e'.message)
    (stdin : Bytes) (before : Machine) :
    (run arguments first stdin before).1 = (run arguments second stdin before).1 ∧
      (run arguments first stdin before).2.Alike (run arguments second stdin before).2 := by
  obtain ⟨noted, ran, alike⟩ := run_refused parsed stdin before
  obtain ⟨noted', ran', alike'⟩ := run_refused parsed' stdin before
  have reported : e.toPluginError = e'.toPluginError := by
    rw [UsageError.toPluginError, message, UsageError.toPluginError]
  rw [ran, ran', reported]
  exact ⟨rfl, alike.symm.trans alike'⟩

theorem run_readings (readings : Readings (parse arguments first) (parse arguments second))
    (noHelp : parse arguments first ≠ .error .help) (stdin : Bytes) (before : Machine) :
    (run arguments first stdin before).1 = (run arguments second stdin before).1 ∧
      (run arguments first stdin before).2.Alike (run arguments second stdin before).2 := by
  generalize parsed : parse arguments first = reading at readings noHelp
  generalize parsed' : parse arguments second = reading' at readings
  cases readings with
  | requests command netns =>
      rw [run, run, parsed, parsed']
      exact runInvocation_congr command netns stdin before
  | uncommanded given given' => exact run_refused_congr parsed parsed' rfl stdin before
  | detours detour =>
      cases detour with
      | help => exact absurd rfl noHelp
      | refused e => exact run_refused_congr parsed parsed' rfl stdin before
      | version =>
          rw [run, run, parsed, parsed']
          exact ⟨rfl, .refl before⟩

/-- What is carried along makes no difference but to the log, where it is a text or is not in both
environments.  Only the help shows it. -/
theorem run_carried (same : first.Agree second) (arguments : List Bytes) (stdin : Bytes)
    (before : Machine) :
    (run arguments first stdin before).1.status = (run arguments second stdin before).1.status ∧
      (run arguments first stdin before).2.Alike (run arguments second stdin before).2 ∧
      (parse arguments first ≠ .error .help →
        (run arguments first stdin before).1.stdout = (run arguments second stdin before).1.stdout) := by
  have readings := parse_agree same arguments
  by_cases help : parse arguments first = .error .help
  · have ran := run_help help stdin before
    have ran' := run_help (readings.help help) stdin before
    refine ⟨?_, ?_, absurd help⟩
    · have status : (run arguments first stdin before).1.status = 0 := by rw [ran]
      rw [status, ran']
    · rw [ran, ran']
      exact .refl before
  · obtain ⟨answers, alike⟩ := run_readings readings help stdin before
    exact ⟨congrArg Exit.status answers, alike, fun _ => congrArg Exit.stdout answers⟩

end Runs

/-- An environment that asks to raise a container's device, with what is carried along. -/
def raisingAsked (carried : Environment) : Environment :=
  carried ++ [("CNI_COMMAND", Bytes.ofString "ADD"), ("CNI_NETNS", Bytes.ofString "/pod")]

def identified : Environment :=
  [("CNI_CONTAINERID", Bytes.ofString "é"), ("CNI_IFNAME", Bytes.ofString "eth0")]

def searched : Environment :=
  [("CNI_ARGS", Bytes.ofString "K=V;"), ("CNI_PATH", Bytes.ofString "/opt/cni/bin")]

theorem run_carried_raising :
    (raisingAsked identified).Agree (raisingAsked searched) ∧
    parse [] (raisingAsked identified) ≠ .error .help ∧
    (run [] (raisingAsked identified) [] Plugin.neighboured).1.status =
      (run [] (raisingAsked searched) [] Plugin.neighboured).1.status ∧
    (run [] (raisingAsked identified) [] Plugin.neighboured).2.Alike
      (run [] (raisingAsked searched) [] Plugin.neighboured).2 ∧
    (run [] (raisingAsked identified) [] Plugin.neighboured).1.stdout =
      (run [] (raisingAsked searched) [] Plugin.neighboured).1.stdout := by
  have same : (raisingAsked identified).Agree (raisingAsked searched) := by
    refine ⟨fun parameter kind => ?_, fun parameter kind => ?_⟩
    · cases parameter with
      | command | netns => decide +kernel
      | _ => cases kind
    · cases parameter with
      | command | netns => cases kind
      | _ => decide +kernel
  have noHelp : parse [] (raisingAsked identified) ≠ .error .help := by decide +kernel
  obtain ⟨status, alike, stdout⟩ := run_carried same [] [] Plugin.neighboured
  exact ⟨same, noHelp, status, alike, stdout noHelp⟩

/-- A container's identifier that is no text is refused, though nothing is made of one that is. -/
theorem illegible_differs :
    ¬ ∀ first second : Environment,
      (∀ name, (∀ parameter : Parameter, parameter.isCarried = true → name ≠ parameter.variableName) →
        first.lookup name = second.lookup name) →
      (∀ entry ∈ first ++ second, 0 ∉ entry.2) →
      ∀ (stdin : Bytes) (before : Machine),
        (run [] first stdin before).1 = (run [] second stdin before).1 := by
  intro alike
  have elsewhere : ∀ name, (∀ parameter : Parameter, parameter.isCarried = true → name ≠ parameter.variableName) →
      (raisingAsked [("CNI_CONTAINERID", [0xFF])]).lookup name = (raisingAsked []).lookup name := by
    intro name other
    have apart : (name == "CNI_CONTAINERID") = false := beq_false_of_ne (other .containerId rfl)
    simp only [raisingAsked, List.cons_append, List.nil_append, List.lookup_cons, apart]
  have same := alike _ _ elsewhere (by decide +kernel) [] Plugin.neighboured
  have refused : (run [] (raisingAsked [("CNI_CONTAINERID", [0xFF])]) [] Plugin.neighboured).1.status = 1 := by
    decide +kernel
  have raised : (run [] (raisingAsked []) [] Plugin.neighboured).1.status = 0 := by decide +kernel
  rw [same, raised] at refused
  exact absurd refused (by decide)

end CommandLine

end NetSwitch
