import NetSwitch.Proofs.Mirror.Scenario
import NetSwitch.Proofs.Mirror.Worker
import NetSwitch.Proofs.Plugin.Excursion
import NetSwitch.Proofs.Scenario.Ownership
import NetSwitch.Proofs.Switch.Closing

/-! Code that a worker runs inside a namespace comes to what it comes to on the thread itself.

The worker's run is a mirror of the other.  A worker that is waited for makes the same calls after
the one that asks for it; one with a handle of its own has one more descriptor, which it closes when
the code is done.
-/

namespace NetSwitch

open Kernel (Descriptor Object Report)

theorem Switch.spawnFor_of_unarmed {destination : Handle} {before : Machine}
    (unarmed : before.kernel.Unarmed .spawn) :
    spawnFor destination before = (.ok (), before.noted ⟨.spawn, .ok⟩) := by
  rw [spawnFor, Op.bind_apply, Syscall.spawn_of_unarmed unarmed]
  rfl

theorem Handle.duplicate_of_unarmed {handle : Handle} {descriptor : Descriptor} {object : Object}
    {before : Machine} (unarmed : before.kernel.Unarmed .dup)
    (owned : handle.descriptor? = some descriptor) (found : before.kernel.object? descriptor = some object) :
    handle.duplicate before =
      (.ok { handle with descriptor? := some ⟨before.kernel.made + 1⟩ },
        Machine.noted { before with kernel := (before.kernel.allocate object).2 }
          ⟨.dup descriptor, .made ⟨before.kernel.made + 1⟩⟩) := by
  simp only [duplicate, Handle.descriptor, owned, Op.bind_apply, Syscall.dup_of_unarmed unarmed found]
  rfl

namespace Scenario

open Switch

/-- Code that runs a program inside a namespace. -/
def Program.body (program : Program V) (ending : Ending V) :
    Body (Session V) String (Failure V) (Yield V) :=
  programBody ending fun home => program.run (some home)

theorem Program.bodies {mirror : Mirror} (program : Program V) (ending : Ending V) :
    mirror.Bodies (mirror.session · = ·) (mirror.yield · = ·) (program.body ending)
      (program.body ending) :=
  Mirror.programBody fun home => Mirror.program program (some home)

/-- What is left of a run inside a namespace. -/
abbrev Ran (V : Type) := Result V × Machine × Session V

/-- What a worker that is waited for leaves: what the thread itself would have left, with one call
more in the trace, and a thread that has stayed where it was. -/
structure Waited (start : Machine) (here there : Ran V) : Prop where
  outcome : there.1 = here.1
  session : there.2.2 = here.2.2
  kernel : there.2.1.kernel = { here.2.1.kernel with trace := there.2.1.kernel.trace }
  calls : ∃ calls, here.2.1.kernel.trace = start.kernel.trace ++ calls ∧
    there.2.1.kernel.trace = start.kernel.trace ++ ⟨.spawn, .ok⟩ :: calls
  caller : there.2.1.thread = start.thread

theorem Program.waited (program : Program V) (ending : Ending V) (destination : Handle)
    (machine : Machine) (session : Session V) (idle : machine.thread.state = .idle)
    (unarmed : machine.kernel.Unarmed .spawn) :
    Waited machine (Switch.run destination (program.body ending) (machine, session))
      (runOnWorker destination (program.body ending) (machine, session)) := by
  have runs : (Mirror.waited machine.kernel.trace).Runs (Ended _)
      (Switch.run destination (program.body ending))
      (Switch.run ((Mirror.waited machine.kernel.trace).handle destination) (program.body ending)) :=
    Mirror.run Mirror.owning_yield (program.bodies ending)
  rw [Renumbering.handle_of_gap rfl, id_eq] at runs
  have resting : machine.thread.spawned = machine.thread := by
    simp only [Thread.spawned, ← idle]
  have start : (Mirror.waited machine.kernel.trace).States
      ((Mirror.waited machine.kernel.trace).session · = ·) (machine, session)
      ({ machine.noted ⟨.spawn, .ok⟩ with thread := machine.thread.spawned }, session) :=
    ⟨⟨(Mirror.waited_plain _).kernels ⟨[], by simp, rfl⟩, resting⟩,
      Session.renumbered_of_gap rfl session⟩
  cases ranHere : Switch.run destination (program.body ending) (machine, session) with
  | mk outcome state =>
      obtain ⟨here, last⟩ := state
      obtain ⟨outcome', ⟨there, last'⟩, ranThere, ended, ⟨kernels, -⟩, sessions⟩ :=
        runs.ran start ranHere
      rw [runOnWorker_ran.mpr (.inr ⟨_, there, spawnFor_of_unarmed unarmed, ranThere, rfl⟩)]
      exact {
        outcome := ended.eq fun value _ same => same.symm.trans (Yield.renumbered_of_gap rfl value)
        session := sessions.symm.trans (Session.renumbered_of_gap rfl last)
        kernel := (Mirror.waited_plain _).kernel_eq kernels
        calls := kernels.trace
        caller := rfl }

/-- A result with its descriptors renumbered. -/
def Result.renumbered (renumbering : Renumbering) : Result V → Result V
  | .returned result => .returned (result.renumbered renumbering)
  | .failed failure => .failed failure
  | .unwound payload => .unwound payload

/-- What a worker with a handle of its own reports of code that came to a result, given what closing
that handle reported: an error of closing takes the place of a value. -/
def Result.reported (path : Path) (closing : Report) : Result V → Result V
  | .returned result =>
      match closing with
      | .failed errno => .failed (.library (.io path (.os errno.byName)))
      | _ => .returned result
  | .failed failure => .failed failure
  | .unwound _ => .failed (.library .workerPanicked)

/-- What a worker with a handle of its own leaves.  Its copy of the handle has the next descriptor,
so that all later ones have moved up by one. -/
inductive Detached (start : Machine) (destination : Handle) (here there : Ran V) : Prop where
  /-- There is nothing to copy. -/
  | refused (closed : destination.descriptor? = none)
      (outcome : here.1 = .failed (.library (.handleClosed destination.path))) (same : there = here)
  | ran (descriptor copy : Descriptor) (calls : List Kernel.Entry) (closing : Report)
      (copied : destination.descriptor? = some descriptor)
      (trace : there.2.1.kernel.trace =
        start.kernel.trace ++ ⟨.dup descriptor, .made copy⟩ :: ⟨.spawn, .ok⟩ :: calls)
      (closed : calls.filter (·.closes copy) = [⟨.close copy, closing⟩])
      (spared : here.2.1.kernel.Unarmed .close → closing = .ok)
      (devices : there.2.1.kernel.namespaces = here.2.1.kernel.namespaces)
      (outcome : there.1 =
        (here.1.renumbered ⟨start.kernel.made, 1⟩).reported destination.path closing)
      (session : there.2.2 = here.2.2.renumbered ⟨start.kernel.made, 1⟩ 1)
      (caller : there.2.1.thread = start.thread)

/-! ### A worker with a handle of its own -/

section Copy

variable {destination : Handle} {machine : Machine} {descriptor : Descriptor} {object : Object}

/-- The copy of a handle that is made next. -/
def copyOf (destination : Handle) (machine : Machine) : Handle :=
  { destination with descriptor? := some ⟨machine.kernel.made + 1⟩ }

/-- The calls that make the copy and the worker. -/
def preparing (machine : Machine) (descriptor : Descriptor) : List Kernel.Entry :=
  [⟨.dup descriptor, .made ⟨machine.kernel.made + 1⟩⟩, ⟨.spawn, .ok⟩]

def prepared (machine : Machine) (descriptor : Descriptor) (object : Object) : Machine :=
  { machine with
    kernel := { (machine.kernel.allocate object).2 with
      trace := machine.kernel.trace ++ preparing machine descriptor } }

/-- How the worker's run mirrors what the thread itself would have done instead. -/
def mirrored (machine : Machine) (descriptor : Descriptor) (object : Object) : Mirror :=
  .detached machine.kernel.made object (machine.kernel.trace ++ preparing machine descriptor)

theorem mirrored_skips :
    (mirrored machine descriptor object).skips ⟨machine.kernel.made + 1⟩ = true := by
  rw [mirrored, Mirror.detached_skips, decide_eq_true rfl]

theorem prepares (uncopied : machine.kernel.Unarmed .dup) (unarmed : machine.kernel.Unarmed .spawn)
    (owned : destination.descriptor? = some descriptor)
    (found : machine.kernel.object? descriptor = some object) :
    ∃ copied, destination.duplicate machine = (.ok (copyOf destination machine), copied) ∧
      spawnFor destination copied = (.ok (), prepared machine descriptor object) := by
  refine ⟨_, Handle.duplicate_of_unarmed uncopied owned found, ?_⟩
  refine (spawnFor_of_unarmed (by exact unarmed)).trans ?_
  simp only [Machine.noted, prepared, preparing, Kernel.allocate, List.append_assoc]
  rfl

theorem aims_copy (owned : destination.descriptor? = some descriptor)
    (found : machine.kernel.object? descriptor = some object) :
    (mirrored machine descriptor object).Aims machine.kernel destination
      (copyOf destination machine) where
  path := rfl
  descriptor := by
    rw [owned]
    refine .some (.beside mirrored_skips found ?_ fun target => ⟨rfl, ?_⟩)
    · simp [mirrored, Mirror.detached]
    · rintro _ _ report ⟨calls, rfl, others⟩
      refine ⟨_, List.append_assoc .., fun entry member => ?_⟩
      rcases List.mem_append.mp member with earlier | last
      · exact others entry earlier
      · rw [List.mem_singleton.mp last]
        rfl

/-- A value that the worker's code returns does not own the copy. -/
theorem apart_copy {outcome outcome' : Result V}
    (ended : Ended ((mirrored machine descriptor object).yield · = ·) outcome outcome') :
    ∀ value, outcome' = .returned value → ∀ other ∈ Owns.handles value,
      other.descriptor? ≠ some ⟨machine.kernel.made + 1⟩ := by
  rintro value rfl other member
  cases ended with
  | returned alike =>
      rw [Mirror.owning_yield alike] at member
      obtain ⟨handle, -, rfl⟩ := List.mem_map.mp member
      exact Renumbering.handle_ne mirrored_skips

theorem reported_eq {outcome outcome' : Result V} {path : Path} {closing : Report}
    (ended : Ended ((mirrored machine descriptor object).yield · = ·) outcome outcome') :
    report (closedWith path closing outcome') =
      (outcome.renumbered ⟨machine.kernel.made, 1⟩).reported path closing := by
  cases ended with
  | returned alike =>
      subst alike
      cases closing <;> rfl
  | failed failure => rfl
  | unwound payload => rfl

end Copy

theorem Program.refused (program : Program V) (ending : Ending V) {destination : Handle}
    {machine : Machine} {session : Session V} (idle : machine.thread.state = .idle)
    (closed : destination.descriptor? = none) :
    Detached machine destination (Switch.run destination (program.body ending) (machine, session))
      (runDetached destination (program.body ending) (machine, session)) := by
  have here : Switch.run destination (program.body ending) (machine, session) =
      (.failed (.library (.handleClosed destination.path)), machine, session) := by
    refine run_ran.mpr (.inl ⟨_, ?_, rfl, rfl⟩)
    simp only [enter, Op.thread_bind, idle, Handle.descriptor, closed]
    rfl
  have there : runDetached destination (program.body ending) (machine, session) =
      (.failed (.library (.handleClosed destination.path)), machine, session) := by
    refine runDetached_ran.mpr (.inl ⟨_, ?_, rfl, rfl⟩)
    simp only [Handle.duplicate, Handle.descriptor, closed]
    rfl
  rw [here, there]
  exact .refused closed rfl rfl

/-- The worker's run with the copy mirrors the run with the handle itself. -/
theorem Program.copy_mirrors (program : Program V) (ending : Ending V) {destination : Handle}
    {machine : Machine} {registry : Registry} {descriptor : Descriptor} {object : Object}
    (idle : machine.thread.state = .idle) (owned : destination.descriptor? = some descriptor)
    (found : machine.kernel.object? descriptor = some object)
    (held : ∀ handle ∈ registry.handles, handle.Backed machine.kernel) {here there : Ran V}
    (ranHere : Switch.run destination (program.body ending) (machine, { registry }) = here)
    (ranThere : Switch.run (copyOf destination machine) (program.body ending)
      ({ prepared machine descriptor object with thread := machine.thread.spawned }, { registry }) =
        there) :
    Ended ((mirrored machine descriptor object).yield · = ·) here.1 there.1 ∧
      (mirrored machine descriptor object).Kernels here.2.1.kernel there.2.1.kernel ∧
      there.2.2 = here.2.2.renumbered ⟨machine.kernel.made, 1⟩ 1 := by
  have resting : machine.thread.spawned = machine.thread := by
    simp only [Thread.spawned, ← idle]
  have start : (mirrored machine descriptor object).Machines machine
      { prepared machine descriptor object with thread := machine.thread.spawned } :=
    ⟨.detached machine.kernel object _, resting⟩
  -- What is held from before the copy was made keeps its descriptors.
  have kept : (mirrored machine descriptor object).session { registry } = ({ registry } : Session V) :=
    congrArg (Session.mk · none) (Registry.renumbered_of_old fun handle member other owns =>
      Kernel.opened_bounded (held handle member other owns))
  obtain ⟨ended, machines, sessions⟩ :=
    Mirror.run_of Mirror.owning_yield (program.bodies ending) (aims_copy owned found) start kept
  rw [ranHere, ranThere] at ended machines sessions
  exact ⟨ended, machines.kernel, sessions.symm⟩

theorem Program.detached (program : Program V) (ending : Ending V) {destination : Handle}
    {machine : Machine} {registry : Registry} (idle : machine.thread.state = .idle)
    (unarmed : machine.kernel.Unarmed .spawn) (uncopied : machine.kernel.Unarmed .dup)
    (backed : destination.Backed machine.kernel)
    (held : ∀ handle ∈ registry.handles, handle.Backed machine.kernel) :
    Detached machine destination (Switch.run destination (program.body ending) (machine, { registry }))
      (runDetached destination (program.body ending) (machine, { registry })) := by
  cases owned : destination.descriptor? with
  | none => exact program.refused ending idle owned
  | some descriptor =>
      obtain ⟨object, found⟩ :=
        Option.isSome_iff_exists.mp (Kernel.object?_isSome.mpr (backed descriptor owned))
      obtain ⟨copied, copying, spawning⟩ := prepares uncopied unarmed owned found
      cases ranHere : Switch.run destination (program.body ending) (machine, { registry }) with
      | mk outcome state =>
      cases ranThere : Switch.run (copyOf destination machine) (program.body ending)
          ({ prepared machine descriptor object with thread := machine.thread.spawned }, { registry }) with
      | mk outcome' state' =>
      obtain ⟨here, last⟩ := state
      obtain ⟨there, last'⟩ := state'
      obtain ⟨ended, kernels, rfl⟩ :=
        program.copy_mirrors ending idle owned found held ranHere ranThere
      cases closing : closeAfter (copyOf destination machine) outcome' there with
      | mk settled final =>
      obtain ⟨report, closed, rfl⟩ := closeAfter_closed rfl (apart_copy ended) closing
      obtain ⟨calls, made, others⟩ := kernels.trace
      obtain ⟨all, trace, once⟩ := closed.once made others
      rw [runDetached_ran.mpr (.inr (.inr
        ⟨_, copied, _, outcome', there, _, final, copying, spawning, ranThere, closing, rfl, rfl⟩))]
      refine .ran descriptor ⟨machine.kernel.made + 1⟩ all report owned ?_ once ?_
        (closed.namespaces.trans kernels.namespaces) (reported_eq ended) rfl rfl
      · rw [trace, List.append_assoc]
        rfl
      · intro spared
        refine closed.spared ?_ (Kernel.object?_isSome.mp ?_)
        · rw [Kernel.Unarmed, kernels.faults]
          exact spared
        · rw [kernels.object?_beside mirrored_skips]
          simp [mirrored, Mirror.detached]

/-- A worker that is waited for does what the thread itself would have done.  So does one with a
handle of its own, but for the numbers of its descriptors, if the handle can be copied: it reports
of a panic only that there was one, and of a value that it could not close its copy. -/
theorem Program.workers_agree (program : Program V) (ending : Ending V) (destination : Handle)
    (machine : Machine) (registry : Registry) (idle : machine.thread.state = .idle)
    (unarmed : machine.kernel.Unarmed .spawn) :
    Waited machine (Switch.run destination (program.body ending) (machine, { registry }))
        (runOnWorker destination (program.body ending) (machine, { registry })) ∧
      (machine.kernel.Unarmed .dup → destination.Backed machine.kernel →
        (∀ handle ∈ registry.handles, handle.Backed machine.kernel) →
        Detached machine destination
          (Switch.run destination (program.body ending) (machine, { registry }))
          (runDetached destination (program.body ending) (machine, { registry }))) :=
  ⟨program.waited ending destination machine _ idle unarmed, fun uncopied backed held =>
    program.detached ending idle unarmed uncopied backed held⟩

deriving instance DecidableEq for Yield

/-- A machine whose thread holds a handle of a neighbour's namespace, and on which the third attempt
to close a descriptor fails. -/
def neighbouring : Machine :=
  let opened := (Handle.openPath (Bytes.ofString "/pod") Plugin.neighboured).2
  { opened with kernel := opened.kernel.arm { kind := .close, errno := ⟨5⟩, skip := 2 } }

def neighbour : Handle :=
  ⟨some ⟨1⟩, ⟨7⟩, Bytes.ofString "/pod"⟩

/-- A program that brings the loopback device up. -/
def raising : Program Unit :=
  .step true (.device Device.loopback (.set .up)) .done

/-- The thread itself closes a socket and the handle of where it came from.  The third descriptor
that the worker closes is its copy. -/
theorem Program.workers_agree_raising :
    neighbouring.thread.state = .idle ∧ neighbouring.kernel.Unarmed .spawn ∧
      neighbouring.kernel.Unarmed .dup ∧ neighbour.Backed neighbouring.kernel ∧
      (Switch.run neighbour (raising.body (.value ())) (neighbouring, {})).1 = .returned (.value ()) ∧
      (runDetached neighbour (raising.body (.value ())) (neighbouring, {})).1 =
        .failed (.library (.io (Bytes.ofString "/pod") (.os ⟨5⟩))) ∧
      Waited neighbouring (Switch.run neighbour (raising.body (.value ())) (neighbouring, {}))
        (runOnWorker neighbour (raising.body (.value ())) (neighbouring, {})) ∧
      Detached neighbouring neighbour
        (Switch.run neighbour (raising.body (.value ())) (neighbouring, {}))
        (runDetached neighbour (raising.body (.value ())) (neighbouring, {})) := by
  have idle : neighbouring.thread.state = .idle := by decide +kernel
  have unarmed : neighbouring.kernel.Unarmed .spawn := by decide +kernel
  have uncopied : neighbouring.kernel.Unarmed .dup := by decide +kernel
  have backed : neighbour.Backed neighbouring.kernel :=
    Handle.backed_of_mem rfl (by decide +kernel)
  obtain ⟨waited, detached⟩ := raising.workers_agree (.value ()) neighbour neighbouring {} idle unarmed
  refine ⟨idle, unarmed, uncopied, backed, ?_, ?_, waited,
    detached uncopied backed (by simp [Registry.handles])⟩
  · decide +kernel
  · decide +kernel

end Scenario

end NetSwitch
