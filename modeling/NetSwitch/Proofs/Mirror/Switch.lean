import NetSwitch.Proofs.Mirror.Handle
import NetSwitch.Proofs.Switch.Run

/-! Switches on a machine and on its mirror.

A mirror may switch with a handle that only stands for the one that the machine switches with: it
has another descriptor, of the same object.
-/

namespace NetSwitch

open Kernel (Descriptor Object)

namespace Mirror

variable {mirror : Mirror}

/-! ### Entering and going back -/

/-- A descriptor that stands in the mirror for one of the machine: the same under its other number,
or one beside that refers to the same object and is taken for it in a trace. -/
inductive Stands (mirror : Mirror) (kernel : Kernel) : Descriptor → Descriptor → Prop where
  | renumbered (descriptor : Descriptor) : Stands mirror kernel descriptor (mirror.descriptor descriptor)
  | beside {descriptor descriptor' : Descriptor} {object : Object}
      (skipped : mirror.skips descriptor' = true) (found : kernel.object? descriptor = some object)
      (copied : mirror.beside.lookup descriptor' = some object)
      (notes : ∀ target, mirror.Notes (.setns descriptor target) (.setns descriptor' target)) :
      Stands mirror kernel descriptor descriptor'

theorem Stands.setns {descriptor descriptor' : Descriptor} {before before' : Machine}
    (stands : mirror.Stands before.kernel descriptor descriptor')
    (machines : mirror.Machines before before') :
    Answered Eq (Syscall.setns descriptor before).1 (Syscall.setns descriptor' before').1 ∧
      mirror.Machines (Syscall.setns descriptor before).2 (Syscall.setns descriptor' before').2 := by
  cases stands with
  | renumbered => exact setns_renumbered descriptor machines
  | beside skipped found copied notes =>
      refine Mirror.setns machines ?_ notes
      rw [Kernel.network?, Kernel.network?, found, machines.kernel.object?_beside skipped, copied]

theorem Stands.of_makes {descriptor descriptor' own : Descriptor} {object : Object}
    {before after : Machine} (stands : mirror.Stands before.kernel descriptor descriptor')
    (makes : before.Makes after own object) : mirror.Stands after.kernel descriptor descriptor' := by
  cases stands with
  | renumbered => exact .renumbered descriptor
  | beside skipped found copied notes =>
      refine .beside skipped ?_ copied notes
      rw [Kernel.object?, makes.works.descriptors,
        Kernel.lookup_append_of_mem (Kernel.opened_of_object? found), ← found, Kernel.object?]

/-- A handle that the mirror switches with where the machine switches with another. -/
structure Aims (mirror : Mirror) (kernel : Kernel) (destination destination' : Handle) : Prop where
  path : destination'.path = destination.path
  descriptor : Option.Rel (mirror.Stands kernel) destination.descriptor? destination'.descriptor?

theorem Aims.renumbered (kernel : Kernel) (handle : Handle) :
    mirror.Aims kernel handle (mirror.handle handle) where
  path := rfl
  descriptor := by
    obtain ⟨_ | descriptor, id, path⟩ := handle
    · exact .none
    · exact .some (.renumbered descriptor)

open Handle Switch

theorem closeHome (home : Handle) : mirror.Ops Eq (closeHome home) (closeHome (mirror.handle home)) := by
  refine .bind (closeHandle home) fun _ _ answered => ?_
  rcases answered with ⟨⟨⟩⟩ | e
  · exact .pure rfl
  · exact emit _ _

theorem enter {destination destination' : Handle} {before before' : Machine}
    (aims : mirror.Aims before.kernel destination destination')
    (machines : mirror.Machines before before') :
    Answered (mirror.handle · = ·) (enter destination before).1 (enter destination' before').1 ∧
      mirror.Machines (enter destination before).2 (enter destination' before').2 := by
  obtain ⟨target?, id, path⟩ := destination
  obtain ⟨target?', id', path'⟩ := destination'
  obtain ⟨rfl, aims⟩ := aims
  simp only [Switch.enter, Op.thread_bind, machines.thread]
  cases before.thread.state
  case switched => exact ⟨.error _, machines⟩
  case tainted => exact ⟨.error _, machines⟩
  cases aims with
  | none => exact ⟨.error _, machines⟩
  | some stands =>
      simp only [Handle.descriptor, openOwn, Op.bind_apply]
      cases opening : Handle.openPath Path.threadSelf before with
      | mk found opened =>
          obtain ⟨found', opened', opening', answered, ends⟩ :=
            (openPath Path.threadSelf).ran machines opening
          rw [opening']
          rcases answered with @⟨home, _, rfl⟩ | e
          · rcases openPath_ran opening with ⟨_, failed, -⟩ | ⟨_, _, _, -, -, -, -, makes⟩
            · cases failed
            refine InStep.bind_of ((stands.of_makes makes).setns ends) fun _ _ moved => ?_
            rcases moved with ⟨⟨⟩⟩ | errno
            · exact .bind (setState .switched) fun _ _ _ =>
                .bind (emit _ _) fun _ _ _ => .pure (.ok rfl)
            · exact .bind (emit _ _) fun _ _ _ =>
                .bind (closeHome home) fun _ _ _ => .pure (.error _)
          · exact ⟨.error e, ends⟩

theorem moveBack (home : Handle) :
    mirror.Ops (Answered Eq) (moveBack home) (moveBack (mirror.handle home)) := by
  obtain ⟨_ | descriptor, id, path⟩ := home
  · exact .pure (.refl _)
  · refine .bind (setns_renumbered descriptor) fun _ _ answered => ?_
    rcases answered with ⟨⟨⟩⟩ | errno <;> exact .pure (.refl _)

theorem restore (home : Handle) :
    mirror.Ops (Answered Eq) (restore home) (restore (mirror.handle home)) := by
  refine .bind (moveBack home) fun _ _ answered => ?_
  rcases answered with ⟨⟨⟩⟩ | e
  all_goals
    exact .bind (setState _) fun _ _ _ => .bind (emit _ _) fun _ _ _ =>
      .bind (closeHome home) fun _ _ _ => .pure (.refl _)

end Mirror

/-! ### Tasks -/

/-- Both return values that are alike, or both end otherwise in the same way. -/
inductive Ended {π ε : Type} (Alike : α → β → Prop) : Outcome π ε α → Outcome π ε β → Prop where
  | returned {value value'} (alike : Alike value value') :
      Ended Alike (.returned value) (.returned value')
  | failed (e : ε) : Ended Alike (.failed e) (.failed e)
  | unwound (payload : π) : Ended Alike (.unwound payload) (.unwound payload)

theorem Ended.eq {Alike : α → α → Prop} {outcome outcome' : Outcome π ε α}
    (ended : Ended Alike outcome outcome') (same : ∀ value value', Alike value value' → value' = value) :
    outcome' = outcome := by
  cases ended with
  | returned alike => rw [same _ _ alike]
  | failed e => rfl
  | unwound payload => rfl

/-- A machine and its mirror, with what there is besides on both sides. -/
def Mirror.States (mirror : Mirror) (Own : σ → τ → Prop) (state : Machine × σ)
    (state' : Machine × τ) : Prop :=
  mirror.Machines state.1 state'.1 ∧ Own state.2 state'.2

abbrev Mirror.Tasks (mirror : Mirror) (Own : σ → τ → Prop) (Answers : α → β → Prop) (task : Task σ α)
    (task' : Task τ β) : Prop :=
  InStep (mirror.States Own) Answers task task'

namespace Mirror

variable {mirror : Mirror} {Own : σ → τ → Prop} {Alike : α → β → Prop}

theorem ofOp_of {op : Op α} {op' : Op β} {before before' : Machine} {own : σ} {own' : τ}
    (step : Alike (op before).1 (op' before').1 ∧ mirror.Machines (op before).2 (op' before').2)
    (owns : Own own own') :
    Alike ((Task.ofOp op : Task σ α) (before, own)).1 ((Task.ofOp op' : Task τ β) (before', own')).1 ∧
      mirror.States Own ((Task.ofOp op : Task σ α) (before, own)).2
        ((Task.ofOp op' : Task τ β) (before', own')).2 :=
  ⟨step.1, step.2, owns⟩

theorem ofOp {op : Op α} {op' : Op β} (ops : mirror.Ops Alike op op') :
    mirror.Tasks Own Alike (Task.ofOp op) (Task.ofOp op') :=
  fun _ _ ⟨machines, owns⟩ => ofOp_of (ops machines) owns

theorem onNewThread {task : Task σ α} {task' : Task τ β} (tasks : mirror.Tasks Own Alike task task') :
    mirror.Tasks Own Alike (Task.onNewThread task) (Task.onNewThread task') := by
  rintro ⟨machine, own⟩ ⟨machine', own'⟩ ⟨⟨kernel, thread⟩, owns⟩
  obtain ⟨answers, ⟨left, -⟩, kept⟩ :=
    @tasks ({ machine with thread := machine.thread.spawned }, own)
      ({ machine' with thread := machine'.thread.spawned }, own')
      ⟨⟨kernel, congrArg Thread.spawned thread⟩, owns⟩
  exact ⟨answers, ⟨left, thread⟩, kept⟩

open Switch

variable [OfError ε] [Owns α] [Owns β]

/-- Values that are alike own the same handles, renumbered. -/
def Owning (mirror : Mirror) (Alike : α → β → Prop) : Prop :=
  ∀ {value value'}, Alike value value' →
    Owns.handles value' = (Owns.handles value).map mirror.handle

omit [OfError ε] in
theorem discard {value : α} {value' : β} (owning : mirror.Owning Alike) (alike : Alike value value') :
    mirror.Ops Eq (discard value) (discard value') := by
  unfold NetSwitch.discard
  rw [owning alike]
  exact dropAll _

theorem leave {home : Handle} {outcome : Outcome π ε α} {outcome' : Outcome π ε β}
    (owning : mirror.Owning Alike) (ended : Ended Alike outcome outcome') :
    mirror.Ops (Ended Alike) (leave home outcome) (leave (mirror.handle home) outcome') := by
  cases ended with
  | returned alike =>
      refine .bind (restore home) fun _ _ answered => ?_
      rcases answered with ⟨⟨⟩⟩ | e
      · exact .pure (.returned alike)
      · exact .bind (discard owning alike) fun _ _ _ => .pure (.failed _)
  | failed e =>
      refine .bind (restore home) fun _ _ answered => ?_
      rcases answered with ⟨⟨⟩⟩ | e
      · exact .pure (.failed _)
      · exact .bind (emit _ _) fun _ _ _ => .pure (.failed _)
  | unwound payload =>
      exact .bind (emit _ _) fun _ _ _ => .bind (restore home) fun _ _ _ => .pure (.unwound payload)

theorem closeAfter {handle : Handle} {outcome : Outcome π ε α} {outcome' : Outcome π ε β}
    (owning : mirror.Owning Alike) (ended : Ended Alike outcome outcome') :
    mirror.Ops (Ended Alike) (closeAfter handle outcome) (closeAfter (mirror.handle handle) outcome') := by
  cases ended with
  | returned alike =>
      refine .bind (closeHandle handle) fun _ _ answered => ?_
      rcases answered with ⟨⟨⟩⟩ | e
      · exact .pure (.returned alike)
      · exact .bind (discard owning alike) fun _ _ _ => .pure (.failed _)
  | failed e =>
      exact .bind (closeHandle handle) fun _ _ _ => .pure (.failed e)
  | unwound payload => exact .bind (drop handle) fun _ _ _ => .pure (.unwound payload)

/-- Code for the machine and code for its mirror that are in step wherever they come from. -/
def Bodies (mirror : Mirror) (Own : σ → τ → Prop) (Alike : α → β → Prop) (body : Body σ π ε α)
    (body' : Body τ π ε β) : Prop :=
  ∀ home, mirror.Tasks Own (Ended Alike) (body home) (body' (mirror.handle home))

variable {body : Body σ π ε α} {body' : Body τ π ε β} {destination destination' : Handle}

/-- A switch is made on both sides, be it with a handle that merely stands for the other. -/
theorem run_of {before before' : Machine} {own : σ} {own' : τ} (owning : mirror.Owning Alike)
    (bodies : mirror.Bodies Own Alike body body')
    (aims : mirror.Aims before.kernel destination destination')
    (machines : mirror.Machines before before') (owns : Own own own') :
    Ended Alike (run destination body (before, own)).1 (run destination' body' (before', own')).1 ∧
      mirror.States Own (run destination body (before, own)).2
        (run destination' body' (before', own')).2 := by
  refine InStep.bind_of (ofOp_of (enter aims machines) owns) fun _ _ answered => ?_
  rcases answered with @⟨home, _, rfl⟩ | e
  · exact .bind (bodies home) fun _ _ ended => ofOp (leave owning ended)
  · exact .pure (.failed _)

theorem run (owning : mirror.Owning Alike) (bodies : mirror.Bodies Own Alike body body') :
    mirror.Tasks Own (Ended Alike) (run destination body) (run (mirror.handle destination) body') :=
  fun _ _ ⟨machines, owns⟩ => run_of owning bodies (.renumbered _ destination) machines owns

omit [OfError ε] [Owns α] [Owns β] in
theorem spawnFor (destination : Handle) :
    mirror.Ops (Answered Eq) (spawnFor destination) (spawnFor (mirror.handle destination)) := by
  refine .bind spawn fun _ _ answered => ?_
  rcases answered with ⟨⟨⟩⟩ | errno <;> exact .pure (.refl _)

theorem runOnWorker (owning : mirror.Owning Alike) (bodies : mirror.Bodies Own Alike body body') :
    mirror.Tasks Own (Ended Alike) (runOnWorker destination body)
      (runOnWorker (mirror.handle destination) body') := by
  refine .bind (ofOp (spawnFor destination)) fun _ _ answered => ?_
  rcases answered with ⟨⟨⟩⟩ | e
  · exact onNewThread (run owning bodies)
  · exact .pure (.failed _)

theorem runDetached (owning : mirror.Owning Alike) (bodies : mirror.Bodies Own Alike body body') :
    mirror.Tasks Own (Ended Alike) (runDetached destination body)
      (runDetached (mirror.handle destination) body') := by
  refine .bind (ofOp (duplicate destination)) fun _ _ answered => ?_
  rcases answered with @⟨copy, _, rfl⟩ | e
  · refine .bind (ofOp (spawnFor destination)) fun _ _ answered => ?_
    rcases answered with ⟨⟨⟩⟩ | e
    · refine onNewThread (.bind (run owning bodies) fun _ _ ended => ?_)
      refine .bind (ofOp (closeAfter owning ended)) fun _ _ ended => ?_
      cases ended with
      | returned alike => exact .pure (.returned alike)
      | failed e => exact .pure (.failed e)
      | unwound payload => exact .pure (.failed _)
    · exact .bind (ofOp (drop copy)) fun _ _ _ => .pure (.failed _)
  · exact .pure (.failed _)

theorem runAtPath {path : Path} (owning : mirror.Owning Alike)
    (bodies : mirror.Bodies Own Alike body body') :
    mirror.Tasks Own (Ended Alike) (runAtPath path body) (runAtPath path body') := by
  refine .bind (ofOp (openPath path)) fun _ _ answered => ?_
  rcases answered with @⟨destination, _, rfl⟩ | e
  · exact .bind (run owning bodies) fun _ _ ended => ofOp (closeAfter owning ended)
  · exact .pure (.failed _)

end Mirror

end NetSwitch
