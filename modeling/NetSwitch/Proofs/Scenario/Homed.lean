import NetSwitch.Proofs.Scenario.History
import NetSwitch.Proofs.Scenario.Steady

/-! Where threads are: what is known of the place of a thread at each moment of its life, and how
that is carried from one moment to the next. -/

namespace NetSwitch.Scenario

open Kernel (Descriptor)

/-- Where a thread is that began in a namespace and has lived through the moments in `past`.  It
is where it began; or it is inside a single switch, which holds a descriptor of where it
began, and is where that switch was to go; or it was to leave such a switch, the move back
failed, and it is still there. -/
inductive Homed (birthplace : String) (past : List Moment) (stays : List Stay) (machine : Machine) :
    Prop where
  | idle (state : machine.thread.state = .idle) (outside : stays = [])
      (there : machine.thread.location = birthplace) : Homed birthplace past stays machine
  | switched (stay : Stay) (own : Descriptor) (state : machine.thread.state = .switched)
      (within : stays = [stay]) (owns : stay.home.descriptor? = some own)
      (origin : machine.kernel.network? own = some birthplace)
      (there : stay.target = some machine.thread.location) : Homed birthplace past stays machine
  | tainted (last : Moment) (stay : Stay) (own : Descriptor) (errno : Errno)
      (state : machine.thread.state = .tainted) (outside : stays = []) (earlier : last ∈ past)
      (within : last.stays = [stay]) (owns : stay.home.descriptor? = some own)
      (failed : last.machine.kernel.trace ++ [⟨.setns own (some birthplace), .failed errno⟩] <+:
        machine.kernel.trace)
      (there : stay.target = some machine.thread.location) : Homed birthplace past stays machine

namespace Homed

variable {birthplace : String} {past more : List Moment} {stays : List Stay}
variable {machine before after : Machine}

theorem mono (homed : Homed birthplace past stays machine) (within : past ⊆ more) :
    Homed birthplace more stays machine := by
  cases homed with
  | idle state outside there => exact .idle state outside there
  | switched stay own state inside owns origin there =>
      exact .switched stay own state inside owns origin there
  | tainted last stay own errno state outside earlier inside owns failed there =>
      exact .tainted last stay own errno state outside (within earlier) inside owns failed there

theorem of_idle (homed : Homed birthplace past stays machine)
    (idle : machine.thread.state = .idle) :
    stays = [] ∧ machine.thread.location = birthplace := by
  cases homed with
  | idle state outside there => exact ⟨outside, there⟩
  | switched stay own state => cases idle.symm.trans state
  | tainted last stay own errno state => cases idle.symm.trans state

/-- A thread inside of a switch holds a descriptor of its home, and is where the switch was to go. -/
theorem of_within {stay : Stay} {own : Descriptor} (homed : Homed birthplace past [stay] machine)
    (owns : stay.home.descriptor? = some own) :
    machine.kernel.network? own = some birthplace ∧ stay.target = some machine.thread.location := by
  cases homed with
  | idle state outside => cases outside
  | switched same descriptor state within owned origin there =>
      cases within
      cases owns.symm.trans owned
      exact ⟨origin, there⟩
  | tainted last same descriptor errno state outside => cases outside

/-- The move back brings a thread home, or leaves it where it is and taints it. -/
theorem returned {last : Moment} {stay : Stay} {own : Descriptor} {restored : Except Error Unit}
    (homed : Homed birthplace past [stay] last.machine) (earlier : last ∈ past)
    (within : last.stays = [stay]) (owns : stay.home.descriptor? = some own)
    (returns : Switch.Returns last.machine after own restored) : Homed birthplace past [] after := by
  obtain ⟨origin, there⟩ := homed.of_within owns
  cases returns with
  | back location same thread moved =>
      cases origin.symm.trans same
      exact .idle (by rw [thread]) rfl (by rw [thread])
  | stranded errno thread failed =>
      rw [origin] at failed
      refine .tainted last stay own errno (by rw [thread]) rfl earlier within owns failed ?_
      rw [there, thread]

/-- Work that neither moves the thread nor takes the descriptors of its switches away. -/
theorem carry {foreign : List Descriptor} {handles : List Handle}
    (homed : Homed birthplace past stays before)
    (accounts : before.kernel.Accounts foreign handles after.kernel)
    (keeping : ∀ stay ∈ stays, stay.home ∈ handles) (unmoved : before.Unmoved after) :
    Homed birthplace past stays after := by
  obtain ⟨state, location⟩ := unmoved
  cases homed with
  | idle idle outside there => exact .idle (state.trans idle) outside (location.trans there)
  | switched stay own switched within owns origin there =>
      refine .switched stay own (state.trans switched) within owns ?_ (location ▸ there)
      have held : stay.home ∈ handles := keeping stay (within ▸ List.mem_singleton_self stay)
      rw [← origin]
      exact accounts.grown.network?_of_opened (Kernel.opened_of_network? origin)
        (accounts.backed held own owns)
  | tainted last stay own errno tainted outside earlier within owns failed there =>
      obtain ⟨entries, trace, -⟩ := accounts.grown.entries
      refine .tainted last stay own errno (state.trans tainted) outside earlier within owns ?_
        (location ▸ there)
      exact failed.trans ⟨entries, trace.symm⟩

end Homed

/-- A thread is in its place at one moment after the other. -/
def Homeward (birthplace : String) : List Moment → List Moment → Prop
  | _, [] => True
  | past, moment :: rest =>
      Homed birthplace past moment.stays moment.machine ∧
        Homeward birthplace (past ++ [moment]) rest

theorem homeward_append {birthplace : String} {past first rest : List Moment} :
    Homeward birthplace past (first ++ rest) ↔
      Homeward birthplace past first ∧ Homeward birthplace (past ++ first) rest := by
  induction first generalizing past with
  | nil => simp [Homeward]
  | cons moment first ih =>
      simp only [List.cons_append, Homeward, ih, List.append_assoc, List.nil_append, and_assoc]

/-- What happens from a moment on brings every thread to its place. -/
structure Homing (birthplace : String) (past : List Moment) (history : History) (stays : List Stay)
    (after : Machine) : Prop where
  own : Homeward birthplace past history.own
  others : ∀ life ∈ history.others, Homeward life.birthplace [] life.moments
  final : Homed birthplace (past ++ history.own) stays after

namespace Homing

variable {birthplace : String} {past : List Moment} {first rest history : History}
variable {stays : List Stay} {middle after : Machine}

theorem silent (homed : Homed birthplace past stays after) :
    Homing birthplace past {} stays after :=
  ⟨trivial, by simp, by simpa using homed⟩

theorem of {moment : Moment} (homed : Homed birthplace past moment.stays moment.machine) :
    Homing birthplace past (.of moment) moment.stays moment.machine :=
  ⟨⟨homed, trivial⟩, by simp [History.of], homed.mono (List.subset_append_left ..)⟩

theorem append {inner : List Stay} (homing : Homing birthplace past first inner middle)
    (continues : Homing birthplace (past ++ first.own) rest stays after) :
    Homing birthplace past (first ++ rest) stays after where
  own := homeward_append.mpr ⟨homing.own, continues.own⟩
  others life member := (List.mem_append.mp member).elim (homing.others life) (continues.others life)
  final := by
    rw [History.own_append, ← List.append_assoc]
    exact continues.final

theorem carry {foreign : List Descriptor} {handles : List Handle}
    (homing : Homing birthplace past history stays middle)
    (accounts : middle.kernel.Accounts foreign handles after.kernel)
    (keeping : ∀ stay ∈ stays, stay.home ∈ handles) (unmoved : middle.Unmoved after) :
    Homing birthplace past history stays after :=
  ⟨homing.own, homing.others, homing.final.carry accounts keeping unmoved⟩

/-- A thread that waits for another, and the life of that one. -/
theorem waiting {worker : String} {inner : List Stay} {last : Machine}
    (homed : Homed birthplace past stays after) (homing : Homing worker [] history inner last) :
    Homing birthplace past { others := history.lives worker } stays after := by
  refine ⟨trivial, ?_, by simpa using homed⟩
  simp only [History.lives, List.forall_mem_cons]
  exact ⟨homing.own, homing.others⟩

end Homing

/-- What is known when something starts to run in a context: the handles that others hold, with
those of the switches that its thread is inside of, and the place of the thread. -/
structure Ready (birthplace : String) (past : List Moment) (held : List Handle) (context : Context)
    (foreign : List Descriptor) (machine : Machine) (session : Session V) : Prop where
  same : context.held = held
  keeping : ∀ stay ∈ context.stays, stay.home ∈ held
  accounts : machine.kernel.Accounts foreign (held ++ Owns.handles session) machine.kernel
  homed : Homed birthplace past context.stays machine

namespace Ready

variable {birthplace : String} {past : List Moment} {held : List Handle} {context : Context}
variable {foreign : List Descriptor} {machine after : Machine} {session next : Session V}

theorem keeps (ready : Ready birthplace past held context foreign machine session)
    (rest : List Handle) : ∀ stay ∈ context.stays, stay.home ∈ held ++ rest :=
  fun stay member => List.mem_append_left rest (ready.keeping stay member)

theorem keeps_behind (ready : Ready birthplace past held context foreign machine session)
    (more rest : List Handle) : ∀ stay ∈ context.stays, stay.home ∈ more ++ (held ++ rest) :=
  fun stay member => List.mem_append_right more (ready.keeps rest stay member)

theorem later (ready : Ready birthplace past held context foreign machine session)
    {moments : List Moment} (within : past ⊆ moments) :
    Ready birthplace moments held context foreign machine session :=
  ⟨ready.same, ready.keeping, ready.accounts, ready.homed.mono within⟩

theorem sharing (ready : Ready birthplace past held context foreign machine session)
    (next : Session V) (same : Owns.handles next = Owns.handles session) :
    Ready birthplace past held context foreign machine next where
  same := ready.same
  keeping := ready.keeping
  accounts := by
    rw [same]
    exact ready.accounts
  homed := ready.homed

theorem holding (ready : Ready birthplace past held context foreign machine session)
    (more : List Handle)
    (accounts : machine.kernel.Accounts foreign (more ++ (held ++ Owns.handles next)) after.kernel)
    (unmoved : machine.Unmoved after) :
    Ready birthplace past (more ++ held) (context.holding more) foreign after next where
  same := by simp only [Context.holding, ready.same]
  keeping stay member := List.mem_append_right more (ready.keeping stay member)
  accounts := by
    rw [List.append_assoc]
    exact accounts.rebase
  homed := ready.homed.carry accounts (ready.keeps_behind _ _) unmoved

theorem spawned (ready : Ready birthplace past held context foreign machine session) :
    Ready machine.thread.location [] held context.onNewThread foreign
      { machine with thread := machine.thread.spawned } session where
  same := ready.same
  keeping := by simp [Context.onNewThread]
  accounts := ready.accounts
  homed := .idle rfl rfl rfl

end Ready

/-- A moment at which threads find their own namespaces. -/
def Moment.Resolving (moment : Moment) : Prop :=
  moment.machine.kernel.ResolvesOwn

/-- What runs, and what happens meanwhile, brings every thread to its place, while others hold
handles. -/
def Homes (run : Run V α) (chronicle : Chronicle V) (held : List Handle) : Prop :=
  ∀ ⦃birthplace past context foreign machine session value after left⦄,
    Ready birthplace past held context foreign machine session →
    (chronicle context (machine, session)).Every Moment.Resolving →
    run (machine, session) = (value, after, left) →
    Homing birthplace past (chronicle context (machine, session)) context.stays after

end NetSwitch.Scenario
