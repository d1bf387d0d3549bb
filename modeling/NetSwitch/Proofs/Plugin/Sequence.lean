import NetSwitch.Proofs.Plugin.Orderly

/-! What a sequence of invocations means in an orderly world.

Of a namespace's loopback device, the last invocation decides that sets it.  The induction is on
the sequence: every invocation leaves an orderly world, in which the same paths lead to the same
namespaces.
-/

namespace NetSwitch.Plugin

/-- An invocation of the plugin: what is asked of it, and what is on its standard input. -/
structure Invocation where
  request : Request
  stdin : Bytes

namespace Invocation

def run (invocation : Invocation) : Op (Except Error Reply) :=
  Plugin.run invocation.request invocation.stdin

def version (invocation : Invocation) : String :=
  (Configuration.read invocation.stdin).version

/-- The path that the invocation goes to, if it goes anywhere. -/
def path? (invocation : Invocation) : Option Path :=
  if invocation.request.command ≠ .version ∧ (Configuration.read invocation.stdin).isSupported then
    invocation.request.netns?
  else none

/-- The namespace that the path opens to. -/
def target? (invocation : Invocation) (kernel : Kernel) (location : String) : Option String :=
  invocation.path?.bind (kernel.opensTo? location)

/-- The state that the loopback device of a namespace is set to. -/
def sets? (invocation : Invocation) (kernel : Kernel) (location name : String) : Option LinkState :=
  if invocation.target? kernel location = some name then invocation.request.command.desired? else none

end Invocation

/-- Runs one invocation after the other. -/
def runEach : List Invocation → Op (List (Except Error Reply))
  | [] => return []
  | invocation :: rest => do
      let answer ← invocation.run
      return answer :: (← runEach rest)

/-- The state of a namespace's loopback device after invocations, if it was in a state at first. -/
def stateAfter (kernel : Kernel) (location name : String) (invocations : List Invocation)
    (first : LinkState) : LinkState :=
  (invocations.filterMap (·.sets? kernel location name)).getLast?.getD first

variable {before after : Machine} {invocation : Invocation} {answer : Except Error Reply}
variable {name : String} {flags : UInt16}

/-- What one invocation does in an orderly world. -/
structure Invocation.Ran (invocation : Invocation) (before after : Machine)
    (answer : Except Error Reply) : Prop where
  orderly : after.Orderly
  thread : after.thread = before.thread
  files : after.kernel.files = before.kernel.files
  namespaces : after.kernel.namespaces = visited before.kernel invocation.request.command.desired?
    (invocation.target? before.kernel before.thread.location)
  replied : ∀ name flags, invocation.target? before.kernel before.thread.location = some name →
    before.kernel.flags? name (Bytes.ofString Device.loopback.name) = some flags →
      ∃ netns, invocation.path? = some netns ∧
        answer = success invocation.request.command invocation.version netns (Device.stateOf flags)

theorem Invocation.ran (orderly : before.Orderly) (ran : invocation.run before = (answer, after)) :
    invocation.Ran before after answer := by
  rcases run_excursion ran with ⟨nothing, alike⟩ |
    ⟨netns, outcome, noted, left, acts, supported, given, alike, excursion, rest, replied⟩
  · have nowhere : invocation.path? = none := by
      unfold Invocation.path?
      rcases nothing with version | unsupported | missing
      · simp [version]
      · simp [unsupported]
      · simp [missing]
    have targetless : invocation.target? before.kernel before.thread.location = none := by
      rw [Invocation.target?, nowhere]
      rfl
    refine ⟨orderly.of_alike alike, alike.thread, by rw [alike.kernel], ?_, ?_⟩
    · rw [targetless, alike.kernel]
      rfl
    · intro name flags there
      cases targetless.symm.trans there
  · have start := orderly.of_alike alike
    obtain ⟨settled, files⟩ := excursion.orderly start
    have path : invocation.path? = some netns := by
      rw [Invocation.path?, if_pos ⟨acts, supported⟩, given]
    have goal : invocation.target? before.kernel before.thread.location =
        noted.kernel.opensTo? noted.thread.location netns := by
      rw [Invocation.target?, path, alike.kernel, alike.thread]
      rfl
    refine ⟨settled.of_alike rest, ?_, ?_, ?_, ?_⟩
    · rw [rest.thread, excursion.thread start, alike.thread]
    · rw [rest.kernel, files, alike.kernel]
    · rw [rest.kernel, excursion.visits start, goal, alike.kernel]
    · intro name flags there present
      rw [goal] at there
      rw [← alike.kernel] at present
      obtain rfl := excursion.served start there present
      refine ⟨netns, path, ?_⟩
      rcases replied with replied | ⟨-, -, id, gone⟩
      · exact replied
      · have opens := (Handle.openPath_served start.calm gone).mpr (Kernel.opensTo?_eq_some.mp there).1
        obtain ⟨target, made⟩ := opens
        cases made

theorem Invocation.runs (invocation : Invocation) (orderly : before.Orderly) :
    ∃ answer after, invocation.run before = (answer, after) ∧ invocation.Ran before after answer :=
  ⟨_, _, rfl, Invocation.ran orderly rfl⟩

namespace Invocation.Ran

variable (ran : invocation.Ran before after answer)

include ran

theorem state (present : before.kernel.flags? name (Bytes.ofString Device.loopback.name) = some flags) :
    ∃ left, after.kernel.flags? name (Bytes.ofString Device.loopback.name) = some left ∧
      Device.stateOf left = (invocation.sets? before.kernel before.thread.location name).getD
        (Device.stateOf flags) ∧
      left &&& ~~~Device.upFlag = flags &&& ~~~Device.upFlag := by
  rw [flags?_of_visited ran.namespaces, if_pos rfl, present, ← Invocation.sets?]
  cases invocation.sets? before.kernel before.thread.location name with
  | none => exact ⟨flags, rfl, rfl, rfl⟩
  | some desired =>
      exact ⟨Device.withState flags desired, rfl, Device.stateOf_withState, Device.withState_others⟩

theorem others {location : String} {device : Bytes}
    (other : device ≠ Bytes.ofString Device.loopback.name) :
    after.kernel.flags? location device = before.kernel.flags? location device := by
  rw [flags?_of_visited ran.namespaces, if_neg other]

end Invocation.Ran

section Sequence

variable {kernel later : Kernel} {location : String} {first : LinkState} {rest : List Invocation}

theorem target?_of_files (same : later.files = kernel.files) :
    invocation.target? later location = invocation.target? kernel location := by
  have opens : later.opensTo? location = kernel.opensTo? location :=
    funext fun path => Kernel.opensTo?_of_files same
  rw [Invocation.target?, opens, Invocation.target?]

theorem stateAfter_cons : stateAfter kernel location name (invocation :: rest) first =
    stateAfter kernel location name rest ((invocation.sets? kernel location name).getD first) := by
  unfold stateAfter
  rw [List.filterMap_cons]
  cases invocation.sets? kernel location name <;> simp [List.getLast?_cons]

theorem stateAfter_of_files (same : later.files = kernel.files) :
    stateAfter later location name rest first = stateAfter kernel location name rest first := by
  simp only [stateAfter, Invocation.sets?, target?_of_files same]

end Sequence

/-- What invocations leave of the flags of the loopback device of a namespace, and what those of
them are told that go there. -/
structure Followed (name : String) (flags : UInt16) (invocations : List Invocation)
    (before after : Machine) (answers : List (Except Error Reply)) : Prop where
  left : ∃ left, after.kernel.flags? name (Bytes.ofString Device.loopback.name) = some left ∧
    Device.stateOf left = stateAfter before.kernel before.thread.location name invocations
      (Device.stateOf flags) ∧
    left &&& ~~~Device.upFlag = flags &&& ~~~Device.upFlag
  replies : ∀ earlier invocation later, invocations = earlier ++ invocation :: later →
    invocation.target? before.kernel before.thread.location = some name →
      ∃ netns, invocation.path? = some netns ∧
        answers[earlier.length]? = some (success invocation.request.command invocation.version netns
          (stateAfter before.kernel before.thread.location name earlier (Device.stateOf flags)))

/-- What a sequence of invocations means. -/
structure Meant (invocations : List Invocation) (before after : Machine)
    (answers : List (Except Error Reply)) : Prop where
  answered : answers.length = invocations.length
  orderly : after.Orderly
  thread : after.thread = before.thread
  files : after.kernel.files = before.kernel.files
  layout : after.kernel.layout = before.kernel.layout
  others : ∀ location device, device ≠ Bytes.ofString Device.loopback.name →
    after.kernel.flags? location device = before.kernel.flags? location device
  followed : ∀ name flags,
    before.kernel.flags? name (Bytes.ofString Device.loopback.name) = some flags →
      Followed name flags invocations before after answers

theorem Followed.after_run {middle : Machine} {mid : UInt16} {rest : List Invocation}
    {replies : List (Except Error Reply)} (one : invocation.Ran before middle answer)
    (present : before.kernel.flags? name (Bytes.ofString Device.loopback.name) = some flags)
    (state : Device.stateOf mid =
      (invocation.sets? before.kernel before.thread.location name).getD (Device.stateOf flags))
    (kept : mid &&& ~~~Device.upFlag = flags &&& ~~~Device.upFlag)
    (many : Followed name mid rest middle after replies) :
    Followed name flags (invocation :: rest) before after (answer :: replies) := by
  have carried (passed : List Invocation) :
      stateAfter middle.kernel middle.thread.location name passed (Device.stateOf mid) =
        stateAfter before.kernel before.thread.location name (invocation :: passed)
          (Device.stateOf flags) := by
    rw [state, stateAfter_cons, one.thread, stateAfter_of_files one.files]
  refine ⟨?_, ?_⟩
  · obtain ⟨left, found, stateLeft, keptLeft⟩ := many.left
    exact ⟨left, found, stateLeft.trans (carried rest), keptLeft.trans kept⟩
  · intro earlier other later split goal
    rcases earlier with _ | ⟨first, earlier⟩
    · cases split
      obtain ⟨netns, path, rfl⟩ := one.replied name flags goal present
      exact ⟨netns, path, rfl⟩
    · cases split
      rw [← target?_of_files one.files, ← one.thread] at goal
      obtain ⟨netns, path, told⟩ := many.replies earlier other later rfl goal
      refine ⟨netns, path, ?_⟩
      rw [carried earlier] at told
      simpa using told

theorem runEach_meant {invocations : List Invocation} {answers : List (Except Error Reply)}
    (orderly : before.Orderly) (ran : runEach invocations before = (answers, after)) :
    Meant invocations before after answers := by
  induction invocations generalizing before answers with
  | nil =>
      cases ran
      refine ⟨rfl, orderly, rfl, rfl, rfl, fun _ _ _ => rfl, fun name flags present => ⟨?_, by simp⟩⟩
      exact ⟨flags, present, rfl, rfl⟩
  | cons invocation rest ih =>
      obtain ⟨answer, middle, ranFirst, ranRest⟩ := Op.bind_ran.mp ran
      obtain ⟨replies, last, ranRest, ⟨⟩⟩ := Op.bind_ran.mp ranRest
      -- The world is orderly again and its files are the same, so the rest mean what they would here.
      have one := Invocation.ran orderly ranFirst
      have many := ih one.orderly ranRest
      refine ⟨by simp [many.answered], many.orderly, many.thread.trans one.thread,
        many.files.trans one.files, many.layout.trans (layout_of_visited one.namespaces), ?_, ?_⟩
      · intro location device other
        rw [many.others location device other, one.others other]
      · intro name flags present
        obtain ⟨mid, between, state, kept⟩ := one.state present
        exact (many.followed name mid between).after_run one present state kept

/-! ### Two invocations -/

section Pairs

variable {kernel one two : Kernel} {wanted? others? : Option LinkState} {opens? leads? : Option String}

theorem visited_of_namespaces (same : one.namespaces = kernel.namespaces) :
    visited one wanted? opens? = visited kernel wanted? opens? := by
  rcases opens? with _ | name
  · exact same
  · rcases wanted? with _ | wanted
    · exact same
    · exact Kernel.brought_of_namespaces same

theorem visited_of_idle (idle : wanted? = none ∨ opens? = none) :
    visited kernel wanted? opens? = kernel.namespaces := by
  rcases idle with rfl | rfl
  · cases opens? <;> rfl
  · rfl

theorem visited_comm (apart : ∀ name ∈ opens?, name ∉ leads?)
    (first : one.namespaces = visited kernel wanted? opens?)
    (second : two.namespaces = visited kernel others? leads?) :
    visited one others? leads? = visited two wanted? opens? := by
  by_cases idle : wanted? = none ∨ opens? = none
  · rw [visited_of_idle idle] at first ⊢
    rw [visited_of_namespaces first, second]
  by_cases still : others? = none ∨ leads? = none
  · rw [visited_of_idle still] at second ⊢
    rw [visited_of_namespaces second, first]
  obtain ⟨wanted, rfl⟩ := Option.ne_none_iff_exists'.mp (not_or.mp idle).1
  obtain ⟨name, rfl⟩ := Option.ne_none_iff_exists'.mp (not_or.mp idle).2
  obtain ⟨desired, rfl⟩ := Option.ne_none_iff_exists'.mp (not_or.mp still).1
  obtain ⟨other, rfl⟩ := Option.ne_none_iff_exists'.mp (not_or.mp still).2
  have different : name ≠ other := fun same => apart name rfl (by simp [same])
  exact (Kernel.brought_of_namespaces first).trans
    ((Kernel.brought_comm different).trans (Kernel.brought_of_namespaces second).symm)

theorem visited_visited (first : one.namespaces = visited kernel wanted? opens?) :
    visited one wanted? opens? = one.namespaces := by
  by_cases idle : wanted? = none ∨ opens? = none
  · exact visited_of_idle idle
  obtain ⟨wanted, rfl⟩ := Option.ne_none_iff_exists'.mp (not_or.mp idle).1
  obtain ⟨name, rfl⟩ := Option.ne_none_iff_exists'.mp (not_or.mp idle).2
  exact (Kernel.brought_of_namespaces first).trans (Kernel.brought_brought.trans first.symm)

end Pairs

/-- Two invocations get the same answers and leave the same flags in either order. -/
def Interchange (first second : Invocation) (before : Machine) : Prop :=
  ∃ one two forth back, runEach [first, second] before = ([one, two], forth) ∧
    runEach [second, first] before = ([two, one], back) ∧
    back.kernel.namespaces = forth.kernel.namespaces

/-- An invocation gets the same answer again, and leaves the flags as it left them before. -/
def Repeats (invocation : Invocation) (before : Machine) : Prop :=
  ∃ answer once twice, runEach [invocation] before = ([answer], once) ∧
    runEach [invocation, invocation] before = ([answer, answer], twice) ∧
    twice.kernel.namespaces = once.kernel.namespaces

theorem runEach_two {first second : Invocation} {middle : Machine} {one two : Except Error Reply}
    (ranFirst : first.run before = (one, middle)) (ranSecond : second.run middle = (two, after)) :
    runEach [first, second] before = ([one, two], after) :=
  Op.bind_ran.mpr ⟨one, middle, ranFirst, Op.bind_ran.mpr ⟨[two], after,
    Op.bind_ran.mpr ⟨two, after, ranSecond, rfl⟩, rfl⟩⟩

/-- An invocation answers as if an invocation on another namespace had not been made. -/
theorem Invocation.Ran.answer_unmoved {other : Invocation} {middle final : Machine}
    {reply instead : Except Error Reply}
    (ran : invocation.Ran before after answer) (moved : other.Ran before middle reply)
    (again : invocation.Ran middle final instead)
    (apart : other.target? before.kernel before.thread.location ≠ some name)
    (goal : invocation.target? before.kernel before.thread.location = some name)
    (present : before.kernel.flags? name (Bytes.ofString Device.loopback.name) = some flags) :
    instead = answer := by
  have same : middle.kernel.flags? name (Bytes.ofString Device.loopback.name) = some flags := by
    rw [flags?_of_visited moved.namespaces, if_pos rfl, if_neg apart, present]
    rfl
  obtain ⟨netns, path, rfl⟩ := ran.replied name flags goal present
  rw [← target?_of_files moved.files, ← moved.thread] at goal
  obtain ⟨other, there, rfl⟩ := again.replied name flags goal same
  cases path.symm.trans there
  rfl

theorem runEach_interchange {first second : Invocation} {name other : String}
    {flags otherFlags : UInt16} (orderly : before.Orderly) (apart : name ≠ other)
    (goal : first.target? before.kernel before.thread.location = some name)
    (present : before.kernel.flags? name (Bytes.ofString Device.loopback.name) = some flags)
    (otherGoal : second.target? before.kernel before.thread.location = some other)
    (otherPresent :
      before.kernel.flags? other (Bytes.ofString Device.loopback.name) = some otherFlags) :
    Interchange first second before := by
  obtain ⟨answer, left, ranFirst, one⟩ := first.runs orderly
  obtain ⟨reply, right, ranSecond, two⟩ := second.runs orderly
  obtain ⟨instead, forth, ranThen, twoLater⟩ := second.runs one.orderly
  obtain ⟨late, back, ranLast, oneLater⟩ := first.runs two.orderly
  have elsewhere : first.target? before.kernel before.thread.location ≠ some other := by
    simp [goal, apart]
  have otherElsewhere : second.target? before.kernel before.thread.location ≠ some name := by
    simp [otherGoal, apart.symm]
  obtain rfl := two.answer_unmoved one twoLater elsewhere otherGoal otherPresent
  obtain rfl := one.answer_unmoved two oneLater otherElsewhere goal present
  refine ⟨late, instead, forth, back, runEach_two ranFirst ranThen, runEach_two ranSecond ranLast, ?_⟩
  rw [oneLater.namespaces, twoLater.namespaces, target?_of_files two.files, two.thread,
    target?_of_files one.files, one.thread]
  refine (visited_comm ?_ one.namespaces two.namespaces).symm
  intro _ there here
  cases goal.symm.trans there
  exact otherElsewhere here

theorem success_of_desired {command : Command} {version : String} {netns : Path}
    {desired state other : LinkState} (wants : command.desired? = some desired) :
    success command version netns state = success command version netns other := by
  cases command with
  | add | del => rfl
  | version | check => cases wants

theorem runEach_repeats {name : String} {flags : UInt16} {desired : LinkState}
    (orderly : before.Orderly) (wants : invocation.request.command.desired? = some desired)
    (goal : invocation.target? before.kernel before.thread.location = some name)
    (present : before.kernel.flags? name (Bytes.ofString Device.loopback.name) = some flags) :
    Repeats invocation before := by
  obtain ⟨answer, once, ranOnce, one⟩ := invocation.runs orderly
  obtain ⟨instead, twice, ranTwice, two⟩ := invocation.runs one.orderly
  obtain ⟨left, found, -⟩ := one.state present
  obtain ⟨netns, path, rfl⟩ := one.replied name flags goal present
  have again := goal
  rw [← target?_of_files one.files, ← one.thread] at again
  obtain ⟨other, there, rfl⟩ := two.replied name left again found
  cases path.symm.trans there
  have same : success invocation.request.command invocation.version netns (Device.stateOf left) =
      success invocation.request.command invocation.version netns (Device.stateOf flags) :=
    success_of_desired wants
  rw [same] at ranTwice
  refine ⟨_, once, twice, Op.bind_ran.mpr ⟨_, once, ranOnce, rfl⟩, runEach_two ranOnce ranTwice, ?_⟩
  rw [two.namespaces, target?_of_files one.files, one.thread]
  exact visited_visited one.namespaces

/-- In an orderly world, every sequence of invocations comes to an end and leaves an orderly world.
The loopback device of a namespace is then in the state that the last of them set that opened the
namespace, and each of those was answered accordingly.  So invocations on different namespaces may be
made in either order, and one that sets a state may be repeated. -/
theorem runEach_meaning (invocations : List Invocation) (before : Machine) (orderly : before.Orderly) :
    (∃ answers after, runEach invocations before = (answers, after) ∧
      Meant invocations before after answers ∧
      ∀ n ∈ before.kernel.namespaces, ∃ flags,
        before.kernel.flags? n.name (Bytes.ofString Device.loopback.name) = some flags ∧
          Followed n.name flags invocations before after answers) ∧
    (∀ n ∈ before.kernel.namespaces, ∀ m ∈ before.kernel.namespaces, n.name ≠ m.name →
      ∀ first second : Invocation,
        first.target? before.kernel before.thread.location = some n.name →
        second.target? before.kernel before.thread.location = some m.name →
          Interchange first second before) ∧
    (∀ n ∈ before.kernel.namespaces, ∀ invocation : Invocation,
      invocation.request.command = .add ∨ invocation.request.command = .del →
      invocation.target? before.kernel before.thread.location = some n.name →
        Repeats invocation before) := by
  have equipped : ∀ n ∈ before.kernel.namespaces, ∃ flags,
      before.kernel.flags? n.name (Bytes.ofString Device.loopback.name) = some flags :=
    fun n member => Option.isSome_iff_exists.mp (orderly.equipped n member)
  refine ⟨?_, ?_, ?_⟩
  · cases ran : runEach invocations before with
    | mk answers after =>
        have meant := runEach_meant orderly ran
        refine ⟨answers, after, rfl, meant, fun n member => ?_⟩
        obtain ⟨flags, present⟩ := equipped n member
        exact ⟨flags, present, meant.followed n.name flags present⟩
  · intro n member m neighbour apart first second goal otherGoal
    obtain ⟨flags, present⟩ := equipped n member
    obtain ⟨otherFlags, otherPresent⟩ := equipped m neighbour
    exact runEach_interchange orderly apart goal present otherGoal otherPresent
  · intro n member invocation setting goal
    obtain ⟨flags, present⟩ := equipped n member
    obtain ⟨desired, wants⟩ : ∃ desired, invocation.request.command.desired? = some desired := by
      rcases setting with add | del
      · exact ⟨.up, by rw [add]; rfl⟩
      · exact ⟨.down, by rw [del]; rfl⟩
    exact runEach_repeats orderly wants goal present

/-- An invocation of a command at the file of the second namespace. -/
def podward (command : Command) : Invocation :=
  { request := { command, netns := some (Bytes.ofString "/pod") }, stdin := [] }

theorem neighboured_orderly : neighboured.Orderly where
  calm := ⟨by simp [neighboured, Machine.host], rfl⟩
  idle := rfl
  own := by decide
  equipped := by decide
  uninterrupted path := by
    by_cases there : path = Bytes.ofString "/pod"
    · subst there
      decide
    · have elsewhere : neighboured.kernel.files.lookup path = none := by
        have differs : (path == Bytes.ofString "/pod") = false := beq_eq_false_iff_ne.mpr there
        simp [neighboured, List.lookup_cons, differs]
      rw [Kernel.node?, elsewhere]
      split <;> simp

theorem runEach_meaning_neighboured :
    neighboured.Orderly ∧
      (∃ answers after, runEach [podward .add, podward .check, podward .del] neighboured = (answers, after) ∧
        Followed "pod" 8 [podward .add, podward .check, podward .del] neighboured after answers) ∧
      stateAfter neighboured.kernel "host" "pod" [podward .add] .down = .up ∧
      stateAfter neighboured.kernel "host" "pod" [podward .add, podward .check, podward .del] .down = .down ∧
      Repeats (podward .del) neighboured := by
  have meaning := runEach_meaning [podward .add, podward .check, podward .del] neighboured
    neighboured_orderly
  obtain ⟨⟨answers, after, ran, meant, -⟩, -, repeats⟩ := meaning
  have member : ⟨"pod", ⟨7⟩, [⟨"lo", 8⟩]⟩ ∈ neighboured.kernel.namespaces := by
    simp [neighboured, Machine.host]
  refine ⟨neighboured_orderly, ⟨answers, after, ran, meant.followed "pod" 8 (by decide)⟩, by decide,
    by decide, ?_⟩
  exact repeats _ member (podward .del) (.inr rfl) (by decide)

end NetSwitch.Plugin
