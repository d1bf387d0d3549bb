import NetSwitch.Proofs.Scenario.Ownership

/-! The history of a program: the moments at which its actions, its switches and the code inside
them begin and end, thread by thread.

Between two moments of a thread lies one operation of the library, or the code of a switch.
A moment keeps the machine, the switches that its thread is inside of, and all handles that
are held at that time.  The states are those of the run itself: each is what running the
actions before it leaves.
-/

namespace NetSwitch.Scenario

/-- A switch that a thread is inside of: where it was to go, the handle of where it came from,
and the machine on arrival. -/
structure Stay where
  destination : Handle
  home : Handle
  arrival : Machine

/-- The namespace that the destination's descriptor stood for on arrival. -/
def Stay.target (stay : Stay) : Option String :=
  stay.destination.descriptor?.bind stay.arrival.kernel.network?

/-- What surrounds an operation: the switches that its thread is inside of, innermost first, and
the handles that are held for what is in progress further up, on this thread and on those
that wait for it. -/
structure Context where
  stays : List Stay := []
  held : List Handle := []

namespace Context

def holding (context : Context) (handles : List Handle) : Context :=
  { context with held := handles ++ context.held }

/-- What surrounds the operations of a new thread. -/
def onNewThread (context : Context) : Context :=
  { context with stays := [] }

def inside (context : Context) (stay : Stay) : Context :=
  ⟨stay :: context.stays, stay.home :: context.held⟩

end Context

/-- A machine between two operations of a thread. -/
structure Moment where
  machine : Machine
  stays : List Stay
  /-- The handles that are alive: those of what is in progress and those in the registry. -/
  handles : List Handle

def Context.moment (context : Context) (state : Machine × Session V) : Moment :=
  ⟨state.1, context.stays, context.held ++ state.2.registry.handles⟩

/-- The life of a thread, from where it began. -/
structure Life where
  birthplace : String
  moments : List Moment

/-- What happens on a thread, and the lives of the threads that it waits for meanwhile. -/
structure History where
  own : List Moment := []
  others : List Life := []

namespace History

def append (first second : History) : History :=
  ⟨first.own ++ second.own, first.others ++ second.others⟩

instance : Append History :=
  ⟨append⟩

def of (moment : Moment) : History :=
  { own := [moment] }

/-- All lives, that of the thread itself first. -/
def lives (history : History) (birthplace : String) : List Life :=
  ⟨birthplace, history.own⟩ :: history.others

/-- Something holds at every moment of every thread. -/
structure Every (holds : Moment → Prop) (history : History) : Prop where
  own : ∀ moment ∈ history.own, holds moment
  others : ∀ life ∈ history.others, ∀ moment ∈ life.moments, holds moment

variable {first second history : History} {moment : Moment} {holds : Moment → Prop}

@[simp] theorem own_append : (first ++ second).own = first.own ++ second.own :=
  rfl

@[simp] theorem others_append : (first ++ second).others = first.others ++ second.others :=
  rfl

theorem every_empty : Every holds {} :=
  ⟨by simp, by simp⟩

theorem every_of : (of moment).Every holds ↔ holds moment :=
  ⟨fun every => every.own moment (List.mem_singleton_self _),
    fun held => ⟨by simpa [of] using held, by simp [of]⟩⟩

theorem every_append : (first ++ second).Every holds ↔ first.Every holds ∧ second.Every holds := by
  constructor
  · intro every
    obtain ⟨own, others⟩ := every
    simp only [own_append, others_append, List.mem_append] at own others
    exact ⟨⟨fun moment within => own moment (.inl within), fun life member => others life (.inl member)⟩,
      ⟨fun moment within => own moment (.inr within), fun life member => others life (.inr member)⟩⟩
  · intro every
    obtain ⟨earlier, later⟩ := every
    refine ⟨fun moment within => ?_, fun life member => ?_⟩
    · exact (List.mem_append.mp within).elim (earlier.own moment) (later.own moment)
    · exact (List.mem_append.mp member).elim (earlier.others life) (later.others life)

theorem every_lives {birthplace : String} :
    (∀ life ∈ history.lives birthplace, ∀ moment ∈ life.moments, holds moment) ↔
      history.Every holds := by
  simp only [lives, List.forall_mem_cons]
  exact ⟨fun ⟨own, others⟩ => ⟨own, others⟩, fun ⟨own, others⟩ => ⟨own, others⟩⟩

theorem every_life {birthplace : String} :
    Every holds { others := history.lives birthplace } ↔ history.Every holds :=
  ⟨fun every => every_lives.mp every.others, fun every => ⟨by simp, every_lives.mpr every⟩⟩

end History

/-- What happens in a context from a state on. -/
abbrev Chronicle (V : Type) := Context → Machine × Session V → History

/-- Nothing happens. -/
def Chronicle.silent : Chronicle V :=
  fun _ _ => {}

instance : Owns (Reaction V) :=
  ⟨fun _ => []⟩

instance : Owns (List (Answer V) × Flow V) :=
  ⟨fun _ => []⟩

/-- Something that runs, from its first moment to its last, with what happens in between.  In the
last moment it hands over what it has come to. -/
def spanning [Owns α] (run : Run V α) (between : Chronicle V) : Chronicle V := fun context state =>
  let (value, left) := run state
  .of (context.moment state) ++ between context state ++
    .of ((context.holding (Owns.handles value)).moment left)

/-- Code inside a switch. -/
def visiting [Owns α] (body : Switch.Body (Session V) π ε α) (between : Handle → Chronicle V)
    (home : Handle) : Chronicle V :=
  spanning (body home) (between home)

/-- What happens on a new thread. -/
def onNewThread (chronicle : Chronicle V) : Chronicle V := fun context (machine, session) =>
  let worker := { machine with thread := machine.thread.spawned }
  { others := (chronicle context.onNewThread (worker, session)).lives worker.thread.location }

/-- What happens within a switch of the running thread. -/
def switching [Owns α] (destination : Handle) (body : Switch.Body (Session V) π ε α)
    (between : Handle → Chronicle V) : Chronicle V := fun context (machine, session) =>
  match Switch.enter destination machine with
  | (.error _, _) => {}
  | (.ok home, arrival) =>
      visiting body between home (context.inside ⟨destination, home, arrival⟩) (arrival, session)

section Switches

variable [OfError ε] [Owns α]

/-- A switch of the running thread. -/
def executing (destination : Handle) (body : Switch.Body (Session V) π ε α)
    (between : Handle → Chronicle V) : Chronicle V :=
  spanning (Switch.run destination body) (switching destination body between)

def working (destination : Handle) (body : Switch.Body (Session V) π ε α)
    (between : Handle → Chronicle V) : Chronicle V :=
  onNewThread (executing destination body between)

def executingAtPath (path : Path) (body : Switch.Body (Session V) π ε α)
    (between : Handle → Chronicle V) : Chronicle V := fun context (machine, session) =>
  match Handle.openPath path machine with
  | (.error _, _) => {}
  | (.ok destination, opened) =>
      executing destination body between (context.holding [destination]) (opened, session)

def Mode.chronicle (mode : Mode) (destination : Handle) (body : Switch.Body (Session V) π ε α)
    (between : Handle → Chronicle V) : Chronicle V := fun context (machine, session) =>
  match mode with
  | .here => executing destination body between context (machine, session)
  | .onWorker =>
      match Switch.spawnFor destination machine with
      | (.error _, _) => {}
      | (.ok (), ready) => working destination body between context (ready, session)
  | .detached =>
      match destination.duplicate machine with
      | (.error _, _) => {}
      | (.ok copy, copied) =>
          match Switch.spawnFor destination copied with
          | (.error _, _) => {}
          | (.ok (), ready) => working copy body between (context.holding [copy]) (ready, session)

def Entry.chronicle (entry : Entry) (body : Switch.Body (Session V) π ε α)
    (between : Handle → Chronicle V) : Chronicle V := fun context (machine, session) =>
  match entry with
  | .byPath path =>
      executingAtPath path body between context (machine, { session with inner := none })
  | .byHandle mode name =>
      match session.registry.slot? name with
      | none => {}
      | some slot =>
          mode.chronicle slot.handle body between context
            (machine, { registry := session.registry.lend slot.key, inner := none })

end Switches

/-- The plugin's switch into the namespace at a path, to do something there. -/
def errand [Owns α] (netns : Path) (op : Op (Except Error α)) : Chronicle V :=
  executingAtPath netns (Plugin.body op) fun _ => .silent

/-- A command of the plugin, which goes to the namespace that the request names. -/
def performing (request : Plugin.Request) : Chronicle V :=
  match request.command, request.netns? with
  | .add, some netns => errand netns (Device.loopback.bring .up)
  | .del, some netns => errand netns (Device.loopback.bring .down)
  | .check, some netns => errand netns Device.loopback.state
  | _, _ => .silent

/-- An invocation of the plugin, whose command is performed in a version that it speaks. -/
def invoking (request : Plugin.Request) (stdin : Bytes) : Chronicle V :=
  fun context (machine, session) =>
    let conf := Plugin.Configuration.read stdin
    let noted := (Op.emit (Plugin.invocation request conf.version) machine).2
    if request.command ≠ .version ∧ !conf.isSupported then {}
    else performing request context (noted, session)

mutual

/-- What happens within an action: the code that it runs inside a namespace or on a new
thread. -/
def Action.chronicle : Action V → Option Handle → Chronicle V
  | .runInside entry program ending _, _ =>
      entry.chronicle (programBody ending fun home => program.run (some home))
        fun home => program.chronicle (some home)
  | .thread program, home => onNewThread (spanning (program.run home) (program.chronicle home))
  | .plugin request stdin, _ => invoking request stdin
  | _, _ => .silent

/-- What happens in a program: one action after the other. -/
def Program.chronicle : Program V → Option Handle → Chronicle V
  | .done, _ => .silent
  | .step strict action rest, home => fun context state =>
      let (reaction, left) := action.run home state
      let acted := spanning (action.run home) (action.chronicle home) context state
      match reaction, strict with
      | .unwound _, _ => acted
      | .answered _ (some _), true => acted
      | .answered _ _, _ => acted ++ rest.chronicle home context left

end

/-- The lives of all threads of a program that is started on a machine. -/
def Program.lives (program : Program V) (machine : Machine) : List Life :=
  (spanning (program.run none) (program.chronicle none) {} (machine, .fresh)).lives
    machine.thread.location

end NetSwitch.Scenario
