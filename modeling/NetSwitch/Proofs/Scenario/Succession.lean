import Mathlib.Data.List.Chain
import NetSwitch.Proofs.Scenario.History
import NetSwitch.Proofs.Scenario.Steady
import NetSwitch.Proofs.Switch.Obstacle

/-! How the moments of a thread follow one another: from each to the next the thread stays where it is,
or it goes into a namespace, or it goes back from the innermost switch that it is inside of.

Going back is the only one of these that can taint a thread.
-/

namespace NetSwitch

variable {before after : Machine}

theorem Machine.Unmoved.symm (unmoved : before.Unmoved after) : after.Unmoved before :=
  ⟨unmoved.state.symm, unmoved.location.symm⟩

namespace Scenario

theorem History.append_empty (history : History) : history ++ {} = history :=
  congrArg₂ History.mk (List.append_nil history.own) (List.append_nil history.others)

/-- What leads from one moment of a thread to the next. -/
inductive Moment.Leads (first next : Moment) : Prop where
  | still (same : next.stays = first.stays) (unmoved : first.machine.Unmoved next.machine) :
      Leads first next
  | enters (stay : Stay) (within : next.stays = stay :: first.stays)
      (entering : Switch.enter stay.destination first.machine = (.ok stay.home, next.machine)) :
      Leads first next
  | leaves (stay : Stay) (noted back : Machine) (restored : Except Error Unit)
      (within : first.stays = stay :: next.stays) (kernel : noted.kernel = first.machine.kernel)
      (thread : noted.thread = first.machine.thread)
      (restoring : Switch.restore stay.home noted = (restored, back))
      (trails : back.Trails next.machine) : Leads first next

/-- The handles that a thread is to go back with are alive. -/
def Moment.Keeps (moment : Moment) : Prop :=
  ∀ stay ∈ moment.stays, stay.home ∈ moment.handles

def Context.Keeps (context : Context) : Prop :=
  ∀ stay ∈ context.stays, stay.home ∈ context.held

/-- A thread begins idle and outside of all switches, and goes from one moment of its life to the next. -/
structure Life.Continuous (life : Life) : Prop where
  begins : ∃ first rest, life.moments = first :: rest ∧ first.stays = [] ∧
    first.machine.thread.state = .idle
  leads : life.moments.IsChain Moment.Leads

/-- What happens on a thread leads from one moment to another, and so it does for the threads that it
waits for meanwhile. -/
structure Follows (first : Moment) (history : History) (last : Moment) : Prop where
  own : (first :: (history.own ++ [last])).IsChain Moment.Leads
  others : ∀ life ∈ history.others, life.Continuous
  keeps : history.Every Moment.Keeps

/-- A moment in a context, at which the thread is where it is on a machine. -/
structure Moment.In (context : Context) (machine : Machine) (moment : Moment) : Prop where
  stays : moment.stays = context.stays
  unmoved : machine.Unmoved moment.machine

/-- What happens in a run leads from the moment at which it begins to that at which it ends. -/
def Links (run : Run V α) (chronicle : Chronicle V) : Prop :=
  ∀ ⦃context machine session value after left handles⦄, context.Keeps →
    run (machine, session) = (value, after, left) →
    Follows (context.moment (machine, session)) (chronicle context (machine, session))
      ⟨after, context.stays, handles⟩

/-- The same for the moments around them, as long as the thread stays where it is. -/
def Spans (run : Run V α) (chronicle : Chronicle V) : Prop :=
  ∀ ⦃context machine session value after left⦄ ⦃first last : Moment⦄, context.Keeps →
    run (machine, session) = (value, after, left) → first.In context machine →
    last.In context after → Follows first (chronicle context (machine, session)) last

section Steps

variable {context : Context} {machine after : Machine} {session : Session V}
variable {first start finish last : Moment} {history rest : History}

theorem Context.Keeps.moment (keeps : context.Keeps) : (context.moment (machine, session)).Keeps :=
  fun stay member => List.mem_append_left _ (keeps stay member)

theorem Context.Keeps.holding (keeps : context.Keeps) (handles : List Handle) :
    (context.holding handles).Keeps :=
  fun stay member => List.mem_append_right handles (keeps stay member)

theorem Context.Keeps.inside (keeps : context.Keeps) (stay : Stay) : (context.inside stay).Keeps := by
  intro other member
  rcases List.mem_cons.mp member with rfl | outer
  · exact List.mem_cons_self ..
  · exact List.mem_cons_of_mem _ (keeps other outer)

theorem Context.keeps_onNewThread : context.onNewThread.Keeps := by
  simp [Context.Keeps, Context.onNewThread]

theorem Moment.In.self : (context.moment (machine, session)).In context machine :=
  ⟨rfl, .refl _⟩

theorem Moment.In.trans {middle : Machine} (unmoved : middle.Unmoved machine)
    (within : first.In context machine) : first.In context middle :=
  ⟨within.stays, unmoved.trans within.unmoved⟩

theorem Moment.In.leads (earlier : first.In context machine) (later : last.In context after)
    (unmoved : machine.Unmoved after) : first.Leads last :=
  .still (later.stays.trans earlier.stays.symm)
    (earlier.unmoved.symm.trans (unmoved.trans later.unmoved))

namespace Follows

theorem silent (leads : first.Leads last) : Follows first {} last :=
  ⟨.cons_cons leads (.singleton last), by simp, History.every_empty⟩

/-- What happens from one moment to another, both of which are noted, and what happens then. -/
theorem continued (earlier : first.Leads start) (between : Follows start history finish)
    (keeps : start.Keeps) (keepsLast : finish.Keeps) (later : Follows finish rest last) :
    Follows first (.of start ++ history ++ .of finish ++ rest) last where
  own := by
    have upTo : (first :: start :: (history.own ++ [finish])).IsChain Moment.Leads :=
      .cons_cons earlier between.own
    have all : ((first :: start :: history.own) ++ finish :: (rest.own ++ [last])).IsChain Moment.Leads :=
      List.isChain_split.mpr ⟨upTo, later.own⟩
    simpa [History.of] using all
  others life member := by
    have found : life ∈ history.others ∨ life ∈ rest.others := by simpa [History.of] using member
    exact found.elim (between.others life) (later.others life)
  keeps := by
    refine History.every_append.mpr ⟨History.every_append.mpr ⟨?_, ?_⟩, later.keeps⟩
    · exact History.every_append.mpr ⟨History.every_of.mpr keeps, between.keeps⟩
    · exact History.every_of.mpr keepsLast

theorem spanning (earlier : first.Leads start) (between : Follows start history finish)
    (keeps : start.Keeps) (keepsLast : finish.Keeps) (later : finish.Leads last) :
    Follows first (.of start ++ history ++ .of finish) last := by
  rw [← History.append_empty (.of start ++ history ++ .of finish)]
  exact continued earlier between keeps keepsLast (silent later)

/-- What happens on a thread from one moment to another is its life if it begins that way. -/
theorem life {birthplace : String} (follows : Follows first history last)
    (begins : ∃ moment rest, history.own = moment :: rest ∧ moment.stays = [] ∧
      moment.machine.thread.state = .idle) : Life.Continuous ⟨birthplace, history.own⟩ :=
  ⟨begins, (List.isChain_append.mp follows.own.tail).1⟩

/-- A thread that waits for another, and the life of that one. -/
theorem waiting {worker : String} (leads : first.Leads last)
    (life : Life.Continuous ⟨worker, history.own⟩)
    (others : ∀ life ∈ history.others, life.Continuous) (keeps : history.Every Moment.Keeps) :
    Follows first { others := history.lives worker } last :=
  ⟨.cons_cons leads (.singleton last), List.forall_mem_cons.mpr ⟨life, others⟩,
    History.every_life.mpr keeps⟩

end Follows

end Steps

section Runs

variable {run : Run V α} {chronicle : Chronicle V}

theorem Spans.links (spans : Spans run chronicle) : Links run chronicle :=
  fun _ _ _ _ _ _ _ keeps ran => spans keeps ran .self ⟨rfl, .refl _⟩

theorem spans_silent (steady : Steady run) : Spans run .silent :=
  fun _ _ _ _ _ _ _ _ _ ran earlier later => .silent (earlier.leads later (steady ran))

/-- What comes after a run leaves the thread where it is. -/
theorem Spans.then {next : α → Run V β} (spans : Spans run chronicle)
    (steady : ∀ value, Steady (next value)) : Spans (run >>= next) chronicle := by
  intro context machine session value after left first last keeps ran earlier later
  obtain ⟨found, ⟨middle, there⟩, ranRun, ranNext⟩ := Task.bind_ran.mp ran
  exact spans keeps ranRun earlier (later.trans (steady found ranNext))

theorem spanning_spans [Owns α] (links : Links run chronicle) : Spans run (spanning run chronicle) := by
  intro context machine session value after left first last keeps ran earlier later
  simp only [spanning, ran]
  refine .spanning (earlier.leads .self (.refl _)) (links keeps ran) keeps.moment
    (keeps.holding _).moment ?_
  exact .still later.stays later.unmoved

/-- A run on a new thread: it begins where that thread does. -/
theorem onNewThread_follows [Owns α] {context : Context} {machine : Machine} {session : Session V}
    {first last : Moment} (links : Links run chronicle) (leads : first.Leads last) :
    Follows first (onNewThread (spanning run chronicle) context (machine, session)) last := by
  let worker : Machine := { machine with thread := machine.thread.spawned }
  cases ran : run (worker, session) with
  | mk value state =>
      obtain ⟨left, there⟩ := state
      have follows : Follows (context.onNewThread.moment (worker, session))
          (spanning run chronicle context.onNewThread (worker, session)) ⟨left, [], []⟩ :=
        spanning_spans links context.keeps_onNewThread ran .self ⟨rfl, .refl _⟩
      exact .waiting leads (follows.life ⟨_, _, rfl, rfl, rfl⟩) follows.others follows.keeps

end Runs

/-! ### Switches -/

section Switches

variable {context : Context} {machine after : Machine} {session left : Session V}
variable {destination : Handle} {path : Path} {first last : Moment}

section Bodies

variable [OfError ε] [Owns α] {body : Switch.Body (Session V) π ε α} {between : Handle → Chronicle V}
variable {outcome : Outcome π ε α}

/-- A thread that is refused stays where it is.  One that enters goes back when the code inside has
ended, however that has ended. -/
theorem switching_links (inside : ∀ home, Links (body home) (between home)) :
    Links (Switch.run destination body) (switching destination body between) := by
  intro context machine session value after left handles keeps ran
  rcases Switch.run_ran.mp ran with
    ⟨e, entering, -, -⟩ | ⟨home, arrival, inner, ended, entering, ranBody, leaving⟩
  · simp only [switching, entering]
    exact .silent (.still rfl (.of_thread (Switch.enter_untouched entering).thread))
  · let stay : Stay := ⟨destination, home, arrival⟩
    have arrived : (context.moment (machine, session)).Leads
        ((context.inside stay).moment (arrival, session)) := .enters stay rfl entering
    obtain ⟨noted, back, restored, kernel, thread, restoring, -, trails⟩ :=
      Switch.leave_restored leaving
    have keepsInside := keeps.inside stay
    simp only [switching, visiting, spanning, entering, ranBody]
    refine .spanning arrived (inside home keepsInside ranBody) keepsInside.moment
      (keepsInside.holding _).moment ?_
    exact .leaves stay noted back restored rfl kernel thread restoring trails

theorem executing_spans (inside : ∀ home, Links (body home) (between home)) :
    Spans (Switch.run destination body) (executing destination body between) :=
  spanning_spans (switching_links inside)

theorem executingAtPath_follows {opened : Machine} (inside : ∀ home, Links (body home) (between home))
    (keeps : context.Keeps) (opening : Handle.openPath path machine = (.ok destination, opened))
    (ran : Switch.run destination body (opened, session) = (outcome, after, left))
    (earlier : first.In context machine) (later : last.In context after) :
    Follows first (executingAtPath path body between context (machine, session)) last := by
  have unmoved : machine.Unmoved opened := .of_thread (Handle.openPath_trails opening).thread
  simp only [executingAtPath, opening]
  refine executing_spans inside (keeps.holding _) ran ?_ ⟨later.stays, later.unmoved⟩
  exact ⟨earlier.stays, unmoved.symm.trans earlier.unmoved⟩

theorem runAtPath_spans (inside : ∀ home, Links (body home) (between home)) :
    Spans (Switch.runAtPath path body) (executingAtPath path body between) := by
  intro context machine session value after left first last keeps ran earlier later
  rcases Switch.runAtPath_ran.mp ran with
    ⟨e, opening, -, -⟩ | ⟨destination, opened, inner, ended, opening, ranRun, closing⟩
  · simp only [executingAtPath, opening]
    exact .silent (earlier.leads later (.of_thread (Handle.openPath_trails opening).thread))
  · have trails := (Switch.closeAfter_closes closing).1
    exact executingAtPath_follows inside keeps opening ranRun earlier (later.trans (.of_thread trails.thread))

end Bodies

variable {body : Switch.Body (Session V) String (Failure V) (Yield V)} {between : Handle → Chronicle V}

theorem enterBy_spans {mode : Mode} (inside : ∀ home, Links (body home) (between home)) :
    Spans (enterBy mode destination body) (mode.chronicle destination body between) := by
  intro context machine session value after left first last keeps ran earlier later
  cases mode with
  | here => exact executing_spans inside keeps ran earlier later
  | onWorker =>
      have leads := earlier.leads later (runOnWorker_steady ran)
      rcases spawning : Switch.spawnFor destination machine with ⟨e | _, ready⟩
      · simp only [Mode.chronicle, spawning]
        exact .silent leads
      · simp only [Mode.chronicle, spawning]
        exact onNewThread_follows (switching_links inside) leads
  | detached =>
      have leads := earlier.leads later (runDetached_steady ran)
      rcases copying : destination.duplicate machine with ⟨e | copy, copied⟩
      · simp only [Mode.chronicle, copying]
        exact .silent leads
      rcases spawning : Switch.spawnFor destination copied with ⟨e | _, ready⟩
      · simp only [Mode.chronicle, copying, spawning]
        exact .silent leads
      · simp only [Mode.chronicle, copying, spawning]
        exact onNewThread_follows (switching_links inside) leads

theorem runEntry_spans {entry : Entry} {resume : Bool}
    (inside : ∀ home, Links (body home) (between home)) :
    Spans (runEntry entry resume body) (entry.chronicle body between) := by
  intro context machine session value after left first last keeps ran earlier later
  cases entry with
  | byPath path =>
      obtain ⟨result, ended, there, ranRun, reacting⟩ := reactToSwitch_ran ran
      exact runAtPath_spans inside keeps ranRun earlier (later.trans (reactTo_steady reacting))
  | byHandle mode name =>
      rcases withSlot_ran ran with ⟨missing, -, rfl, rfl⟩ | ⟨slot, found, ranUse⟩
      · simp only [Entry.chronicle, missing]
        exact .silent (earlier.leads later (.refl _))
      · obtain ⟨middle, between, ranSwitch, ranBack⟩ := lending_ran ranUse
        obtain ⟨result, ended, there, ranRun, reacting⟩ := reactToSwitch_ran ranSwitch
        simp only [Entry.chronicle, found]
        refine enterBy_spans inside keeps ranRun earlier (later.trans ?_)
        exact (reactTo_steady reacting).trans (exchange_steady ranBack)

end Switches

/-! ### The plugin -/

section Plugin

variable [Owns α] {op : Op (Except Error α)} {netns : Path} {request : Plugin.Request}
variable {context : Context} {machine after : Machine} {session : Session V} {first last : Moment}

omit [Owns α] in
theorem body_links {home : Handle} (innocent : Plugin.Innocent op) :
    Links (Plugin.body op home : Run V _) .silent := by
  refine Spans.links (spans_silent ?_)
  intro before session value after left ran
  obtain ⟨answer, ranOp, -, -⟩ := Plugin.body_ran.mp ran
  exact .of_thread (innocent ranOp).1.thread

theorem errand_follows {answer : Except Plugin.Error α} (innocent : Plugin.Innocent op)
    (keeps : context.Keeps)
    (ran : Plugin.result (Switch.runAtPath netns (Plugin.body op)) machine = (answer, after))
    (earlier : first.In context machine) (later : last.In context after) :
    Follows first (errand netns op context (machine, session)) last := by
  obtain ⟨outcome, _, ranTask, -⟩ := Plugin.result_ran.mp ran
  exact runAtPath_spans (fun _ => body_links innocent) keeps (Plugin.runAtPath_body session ranTask)
    earlier later

omit [Owns α] in
theorem del_follows {answer : Except Plugin.Error Plugin.Reply} (command : request.command = .del)
    (keeps : context.Keeps) (ran : Plugin.del request machine = (answer, after))
    (earlier : first.In context machine) (later : last.In context after) :
    Follows first (performing request context (machine, session)) last := by
  rcases Plugin.del_ran ran with ⟨missing, -, alike⟩ | ⟨netns, given, went⟩
  · simp only [performing, command, missing]
    exact .silent (earlier.leads later (.of_thread alike.thread))
  simp only [performing, command, given]
  rcases went with ⟨e, opened, opening, -, alike⟩ |
    ⟨destination, opened, outcome, left, closed, opening, ranInside, closing, -⟩
  · have trails := (Handle.openPath_trails opening).trans alike.quiet.trails
    simp only [errand, executingAtPath, opening]
    exact .silent (earlier.leads later (.of_thread trails.thread))
  · obtain ⟨inside, _, ranTask, -⟩ := Plugin.result_ran.mp ranInside
    have unmoved : left.Unmoved after := .of_thread (Handle.close_trails closing).thread
    exact executingAtPath_follows (fun _ => body_links Device.bring_ran) keeps opening
      (Plugin.run_body session ranTask) earlier (later.trans unmoved)

omit [Owns α] in
theorem performing_follows {version : String} {answer : Except Plugin.Error Plugin.Reply}
    (keeps : context.Keeps) (ran : Plugin.perform request version machine = (answer, after))
    (earlier : first.In context machine) (later : last.In context after) :
    Follows first (performing request context (machine, session)) last := by
  unfold Plugin.perform at ran
  cases command : request.command <;> rw [command] at ran
  case add =>
    rcases Plugin.add_ran ran with ⟨missing, -, rfl⟩ | ⟨netns, found, given, ranInside, -⟩
    · simp only [performing, command, missing]
      exact .silent (earlier.leads later (.refl _))
    · simp only [performing, command, given]
      exact errand_follows Device.bring_ran keeps ranInside earlier later
  case del => exact del_follows command keeps ran earlier later
  case check =>
    rcases Plugin.check_ran ran with ⟨missing, -, rfl⟩ | ⟨netns, found, given, ranInside, -⟩
    · simp only [performing, command, missing]
      exact .silent (earlier.leads later (.refl _))
    · simp only [performing, command, given]
      exact errand_follows Device.state_ran keeps ranInside earlier later
  case version =>
    cases ran
    simp only [performing, command]
    exact .silent (earlier.leads later (.refl _))

omit [Owns α] in
theorem invokePlugin_spans {stdin : Bytes} :
    Spans (invokePlugin request stdin : Run V _) (invoking request stdin) := by
  intro context machine session value after left first last keeps ran earlier later
  obtain ⟨answer, ⟨ended, _⟩, ranPlugin, ranRest⟩ := Task.bind_ran.mp ran
  obtain ⟨_, ranRun, ⟨⟩⟩ := Task.ofOp_ran.mp ranPlugin
  obtain rfl : ended = after := by cases answer <;> cases ranRest <;> rfl
  obtain ⟨noted, made, alike, ranInvoked⟩ := Plugin.run_ran ranRun
  have started : machine.Unmoved noted := .of_thread alike.thread
  simp only [invoking, ← made]
  split at ranInvoked
  · obtain ⟨-, rfl⟩ := ranInvoked
    rw [if_pos ‹_›]
    exact .silent (earlier.leads later started)
  · obtain ⟨performed, ranPerform, rest⟩ := ranInvoked
    rw [if_neg ‹_›]
    exact performing_follows keeps ranPerform (earlier.trans started.symm)
      (later.trans (.of_thread rest.thread))

end Plugin

/-! ### Programs -/

theorem programBody_spans {ending : Ending V} {run : Handle → Run V (List (Answer V) × Flow V)}
    {home : Handle} {chronicle : Chronicle V} (spans : Spans (run home) chronicle) :
    Spans (programBody ending run home) chronicle :=
  spans.then fun _ => steady_bind setInner_steady fun _ => steady_trailing conclude_trails

mutual

theorem Action.run_spans (action : Action V) (home : Option Handle) :
    Spans (action.run home) (action.chronicle home) := by
  cases action with
  | runInside entry program ending resume =>
      exact runEntry_spans fun home => (programBody_spans (program.run_spans (some home))).links
  | thread program =>
      intro context machine session value after left first last keeps ran earlier later
      have steady : Steady ((Action.thread program).run home) :=
        steady_bind onNewThread_steady fun _ => steady_pure
      exact onNewThread_follows (program.run_spans home).links (earlier.leads later (steady ran))
  | plugin request stdin => exact invokePlugin_spans
  | _ => exact spans_silent (Action.run_steady _ home trivial)

theorem Program.run_spans (program : Program V) (home : Option Handle) :
    Spans (program.run home) (program.chronicle home) := by
  cases program with
  | done => exact spans_silent steady_pure
  | step strict action rest =>
      intro context machine session value after left first last keeps ran earlier later
      obtain ⟨reaction, ⟨middle, there⟩, ranAction, ranRest⟩ := step_ran ran
      have between : Follows (context.moment (machine, session))
          (action.chronicle home context (machine, session)) (context.moment (middle, there)) :=
        (action.run_spans home).links keeps ranAction
      have begun : first.Leads (context.moment (machine, session)) := earlier.leads .self (.refl _)
      have acted (unmoved : middle.Unmoved after) :
          Follows first (spanning (action.run home) (action.chronicle home) context (machine, session))
            last := by
        simp only [spanning, ranAction]
        exact .spanning begun between keeps.moment keeps.moment
          (.still later.stays (unmoved.trans later.unmoved))
      have continued {result : List (Answer V) × Flow V}
          (ranProgram : rest.run home (middle, there) = (result, after, left)) :
          Follows first (spanning (action.run home) (action.chronicle home) context (machine, session) ++
            rest.chronicle home context (middle, there)) last := by
        simp only [spanning, ranAction]
        exact .continued begun between keeps.moment keeps.moment
          (rest.run_spans home keeps ranProgram .self later)
      simp only [Program.chronicle, ranAction]
      rcases reaction with ⟨content, _ | failure⟩ | payload
      · obtain ⟨answers, flow, ranProgram, -⟩ := ranRest
        exact continued ranProgram
      · cases strict with
        | true =>
            obtain ⟨-, ⟨⟩⟩ := ranRest
            exact acted (.refl _)
        | false =>
            obtain ⟨answers, flow, ranProgram, -⟩ := ranRest
            exact continued ranProgram
      · obtain ⟨-, ⟨⟩⟩ := ranRest
        exact acted (.refl _)

end

/-- Every thread of a program goes from one moment of its life to the next, and the handles that it is to
go back with are alive at each of them. -/
theorem Program.lives_continuous (program : Program V) (machine : Machine)
    (idle : machine.thread.state = .idle) : ∀ life ∈ program.lives machine,
      life.Continuous ∧ ∀ moment ∈ life.moments, moment.Keeps := by
  have keeps : ({} : Context).Keeps := by simp [Context.Keeps]
  rcases ran : program.run none (machine, .fresh) with ⟨value, after, left⟩
  let start : Moment := Context.moment {} (machine, (.fresh : Session V))
  let history := spanning (program.run none) (program.chronicle none) {} (machine, .fresh)
  have follows : Follows start history ⟨after, [], []⟩ :=
    spanning_spans (program.run_spans none).links keeps ran .self ⟨rfl, .refl _⟩
  intro life member
  constructor
  · rcases List.mem_cons.mp member with rfl | other
    · exact follows.life ⟨start, _, rfl, rfl, idle⟩
    · exact follows.others life other
  · exact History.every_lives.mpr follows.keeps life member

end Scenario

end NetSwitch
