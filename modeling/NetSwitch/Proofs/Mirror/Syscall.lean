import NetSwitch.Proofs.Mirror.Kernel
import NetSwitch.Proofs.Syscall

/-! System calls on a machine and on its mirror.

Every call answers the mirror what it answers the machine, but for the number of a descriptor that
it makes, and leaves a mirror of what it leaves.
-/

namespace NetSwitch

open Kernel (Call Descriptor Entry Fault NameField Object Report)

/-- Two runs that answer alike and end alike whenever they start alike. -/
def InStep (Alike : σ → τ → Prop) (Answers : α → β → Prop) (first : StateM σ α)
    (second : StateM τ β) : Prop :=
  ∀ ⦃before before'⦄, Alike before before' →
    Answers (first before).1 (second before').1 ∧ Alike (first before).2 (second before').2

namespace InStep

variable {Alike : σ → τ → Prop} {Answers : α → β → Prop} {Ends : γ → δ → Prop}
variable {first : StateM σ α} {second : StateM τ β}

theorem pure {value : α} {value' : β} (answers : Answers value value') :
    InStep Alike Answers (Pure.pure value : StateM σ α) (Pure.pure value' : StateM τ β) :=
  fun _ _ alike => ⟨answers, alike⟩

theorem bind_of {next : α → StateM σ γ} {next' : β → StateM τ δ} {before : σ} {before' : τ}
    (step : Answers (first before).1 (second before').1 ∧ Alike (first before).2 (second before').2)
    (rest : ∀ value value', Answers value value' → InStep Alike Ends (next value) (next' value')) :
    Ends ((first >>= next) before).1 ((second >>= next') before').1 ∧
      Alike ((first >>= next) before).2 ((second >>= next') before').2 :=
  rest _ _ step.1 step.2

theorem bind {next : α → StateM σ γ} {next' : β → StateM τ δ} (step : InStep Alike Answers first second)
    (rest : ∀ value value', Answers value value' → InStep Alike Ends (next value) (next' value')) :
    InStep Alike Ends (first >>= next) (second >>= next') :=
  fun _ _ alike => bind_of (step alike) rest

theorem map {change : α → γ} {change' : β → δ} (step : InStep Alike Answers first second)
    (changes : ∀ value value', Answers value value' → Ends (change value) (change' value')) :
    InStep Alike Ends (change <$> first) (change' <$> second) :=
  fun _ _ alike => (step alike).imp_left (changes _ _)

theorem ran {before after : σ} {before' : τ} {answer : α} (step : InStep Alike Answers first second)
    (alike : Alike before before') (ranFirst : first before = (answer, after)) :
    ∃ answer' after', second before' = (answer', after') ∧ Answers answer answer' ∧
      Alike after after' := by
  obtain ⟨answers, ends⟩ := step alike
  rw [ranFirst] at answers ends
  exact ⟨_, _, rfl, answers, ends⟩

end InStep

/-- Both succeed, with values that are alike, or both fail with the same error. -/
inductive Answered (Alike : α → β → Prop) : Except ε α → Except ε β → Prop where
  | ok {value value'} (alike : Alike value value') : Answered Alike (.ok value) (.ok value')
  | error (e : ε) : Answered Alike (.error e) (.error e)

theorem Answered.refl (answer : Except ε α) : Answered Eq answer answer := by
  cases answer with
  | ok value => exact .ok rfl
  | error e => exact .error e

theorem Answered.eq {Alike : α → α → Prop} {answer answer' : Except ε α}
    (answered : Answered Alike answer answer') (same : ∀ value value', Alike value value' → value' = value) :
    answer' = answer := by
  cases answered with
  | ok alike => rw [same _ _ alike]
  | error e => rfl

theorem Answered.bind {Alike : α → β → Prop} {Then : γ → δ → Prop} {answer : Except ε α}
    {answer' : Except ε β} {next : α → Except ε γ} {next' : β → Except ε δ}
    (answered : Answered Alike answer answer')
    (rest : ∀ value value', Alike value value' → Answered Then (next value) (next' value')) :
    Answered Then (answer >>= next) (answer' >>= next') := by
  cases answered with
  | ok alike => exact rest _ _ alike
  | error e => exact .error e

/-- A machine and its mirror.  What they have logged does not matter. -/
structure Mirror.Machines (mirror : Mirror) (machine machine' : Machine) : Prop where
  kernel : mirror.Kernels machine.kernel machine'.kernel
  thread : machine'.thread = machine.thread

/-- Operations on a machine and on its mirror that are in step. -/
abbrev Mirror.Ops (mirror : Mirror) (Answers : α → β → Prop) (op : Op α) (op' : Op β) : Prop :=
  InStep mirror.Machines Answers op op'

namespace Mirror

variable {mirror : Mirror}

theorem kernel : mirror.Ops mirror.Kernels Op.kernel Op.kernel :=
  fun _ _ machines => ⟨machines.kernel, machines⟩

theorem thread : mirror.Ops Eq Op.thread Op.thread :=
  fun _ _ machines => ⟨machines.thread.symm, machines⟩

theorem modifyKernel {change change' : Kernel → Kernel}
    (changes : ∀ {kernel kernel'}, mirror.Kernels kernel kernel' →
      mirror.Kernels (change kernel) (change' kernel')) :
    mirror.Ops Eq (Op.modifyKernel change) (Op.modifyKernel change') :=
  fun _ _ machines => ⟨rfl, changes machines.kernel, machines.thread⟩

theorem setState (state : SwitchState) : mirror.Ops Eq (Op.setState state) (Op.setState state) :=
  fun _ _ machines => ⟨rfl, machines.kernel, congrArg ({ · with state }) machines.thread⟩

theorem moveTo (location : String) : mirror.Ops Eq (Op.moveTo location) (Op.moveTo location) :=
  fun _ _ machines => ⟨rfl, machines.kernel, congrArg ({ · with location }) machines.thread⟩

theorem dropPrivilege : mirror.Ops Eq Op.dropPrivilege Op.dropPrivilege :=
  fun _ _ machines => ⟨rfl, machines.kernel, congrArg ({ · with privileged := false }) machines.thread⟩

theorem emit (event event' : Log.Event) : mirror.Ops Eq (Op.emit event) (Op.emit event') :=
  fun _ _ machines => ⟨rfl, machines.kernel, machines.thread⟩

/-! ### System calls -/

open Syscall

theorem meetFaults (kind : Kernel.CallKind) :
    mirror.Ops Eq (Syscall.meetFaults kind) (Syscall.meetFaults kind) := by
  refine .bind kernel fun kernel kernel' kernels => ?_
  rw [kernels.faults]
  refine .bind (modifyKernel fun kernels => kernels.met _) fun _ _ _ => .pure rfl

/-- A call and its mirror are of one kind, and note what keeps their traces in relation. -/
structure Notes (mirror : Mirror) (call call' : Call) : Prop where
  kind : call'.kind = call.kind
  traces : ∀ {trace trace'} report, mirror.Traces trace trace' →
    mirror.Traces (trace ++ [⟨call, report⟩]) (trace' ++ [⟨call', mirror.report report⟩])

theorem Notes.renumbered (call : Call) : mirror.Notes call (mirror.call call) where
  kind := Renumbering.call_kind call
  traces report related := mirror.goesOn related ⟨call, report⟩

theorem request {call call' : Call} {Alike : α → β → Prop} {report : α → Report} {report' : β → Report}
    {serve : Op (Except Errno α)} {serve' : Op (Except Errno β)} (notes : mirror.Notes call call')
    (reports : ∀ {value value'}, Alike value value' → report' value' = mirror.report (report value))
    (serves : mirror.Ops (Answered Alike) serve serve') :
    mirror.Ops (Answered Alike) (request call report serve) (request call' report' serve') := by
  -- Whatever the answer, it is noted on both sides.
  have noted (answer : Except Errno α) (answer' : Except Errno β) (alike : Answered Alike answer answer') :
      mirror.Ops (Answered Alike)
        (record ⟨call, noteOf report answer⟩ >>= fun _ => pure answer)
        (record ⟨call', noteOf report' answer'⟩ >>= fun _ => pure answer') := by
    refine .bind (modifyKernel fun kernels => kernels.noted ?_) fun _ _ _ => .pure alike
    cases alike with
    | ok values =>
        simp only [noteOf, reports values]
        exact notes.traces _ kernels.trace
    | error errno => exact notes.traces (.failed errno) kernels.trace
  have met : mirror.Ops Eq (Syscall.meetFaults call.kind) (Syscall.meetFaults call'.kind) := by
    rw [notes.kind]
    exact meetFaults call.kind
  refine .bind met fun fault _ same => ?_
  subst same
  cases fault with
  | some errno => exact .bind (.pure (.error errno)) noted
  | none => exact .bind serves noted

theorem allocate (object : Object) :
    mirror.Ops (mirror.descriptor · = ·) (allocate object) (allocate object) := by
  refine .bind kernel fun kernel kernel' kernels => ?_
  obtain ⟨next, allocated⟩ := kernels.allocated object
  exact .bind (modifyKernel fun _ => allocated) fun _ _ _ => .pure next.symm

theorem openOnce (path : Path) :
    mirror.Ops (Answered (mirror.descriptor · = ·)) (openOnce path) (openOnce path) := by
  refine request (.renumbered (.openFile path)) (fun same => by rw [← same]; rfl) ?_
  refine .bind kernel fun kernel kernel' kernels => .bind thread fun thread _ same => ?_
  subst same
  rw [kernels.node?]
  rcases kernel.node? thread.location path with _ | file | _ | errno
  · exact .pure (.error _)
  · exact .bind (allocate _) fun _ _ numbers => .pure (.ok numbers)
  · exact .bind (allocate _) fun _ _ numbers => .pure (.ok numbers)
  · exact .pure (.error errno)

theorem openAgain (path : Path) (times : Nat) :
    mirror.Ops (Answered (mirror.descriptor · = ·)) (openAgain path times) (openAgain path times) := by
  induction times with
  | zero => exact openOnce path
  | succ times ih =>
      refine .bind (openOnce path) fun _ _ answered => ?_
      cases answered with
      | ok numbers => exact .pure (.ok numbers)
      | error errno =>
          dsimp only
          split
          · exact ih
          · exact .pure (.error errno)

theorem openFile (path : Path) :
    mirror.Ops (Answered (mirror.descriptor · = ·)) (openFile path) (openFile path) := by
  refine .bind kernel fun kernel kernel' kernels => ?_
  rw [kernels.faults]
  exact openAgain path _

theorem fstatfs (descriptor : Descriptor) :
    mirror.Ops (Answered Eq) (fstatfs descriptor) (fstatfs (mirror.descriptor descriptor)) := by
  refine request (.renumbered (.fstatfs descriptor)) (fun _ => rfl) ?_
  refine .bind kernel fun kernel kernel' kernels => ?_
  rw [kernels.object?]
  rcases kernel.object? descriptor with _ | _ | _ | _ <;> exact .pure (.refl _)

theorem nstype (descriptor : Descriptor) :
    mirror.Ops (Answered Eq) (nstype descriptor) (nstype (mirror.descriptor descriptor)) := by
  refine request (.renumbered (.nstype descriptor)) (fun _ => rfl) ?_
  refine .bind kernel fun kernel kernel' kernels => ?_
  rw [kernels.object?]
  rcases kernel.object? descriptor with _ | ⟨⟨_, _, _ | _⟩⟩ | _ | _ <;> exact .pure (.refl _)

theorem fstat (descriptor : Descriptor) :
    mirror.Ops (Answered Eq) (fstat descriptor) (fstat (mirror.descriptor descriptor)) := by
  refine request (.renumbered (.fstat descriptor)) (fun _ => rfl) ?_
  refine .bind kernel fun kernel kernel' kernels => ?_
  simp only [kernels.object?, kernels.inode]
  rcases kernel.object? descriptor with _ | _ | _ | _ <;> exact .pure (.refl _)

theorem stat (path : Path) : mirror.Ops (Answered Eq) (stat path) (stat path) := by
  refine request (.renumbered (.stat path)) (fun _ => rfl) ?_
  refine .bind kernel fun kernel kernel' kernels => .bind thread fun thread _ same => ?_
  subst same
  simp only [kernels.node?, kernels.inode]
  rcases kernel.node? thread.location path with _ | _ | _ | _ <;> exact .pure (.refl _)

theorem dup (descriptor : Descriptor) :
    mirror.Ops (Answered (mirror.descriptor · = ·)) (dup descriptor)
      (dup (mirror.descriptor descriptor)) := by
  refine request (.renumbered (.dup descriptor)) (fun same => by rw [← same]; rfl) ?_
  refine .bind kernel fun kernel kernel' kernels => ?_
  rw [kernels.object?]
  cases kernel.object? descriptor with
  | none => exact .pure (.error _)
  | some object => exact .bind (allocate object) fun _ _ numbers => .pure (.ok numbers)

theorem close (descriptor : Descriptor) :
    mirror.Ops (Answered Eq) (close descriptor) (close (mirror.descriptor descriptor)) := by
  refine .bind kernel fun kernel kernel' kernels => ?_
  rw [kernels.object?]
  refine .bind (modifyKernel fun kernels => kernels.released descriptor) fun _ _ _ => ?_
  exact request (.renumbered (.close descriptor)) (fun _ => rfl) (.pure (.refl _))

/-- A thread and its mirror move to the same place if their descriptors lead there. -/
theorem setns {descriptor descriptor' : Descriptor} {before before' : Machine}
    (machines : mirror.Machines before before')
    (leads : before'.kernel.network? descriptor' = before.kernel.network? descriptor)
    (notes : ∀ target, mirror.Notes (.setns descriptor target) (.setns descriptor' target)) :
    Answered Eq (setns descriptor before).1 (setns descriptor' before').1 ∧
      mirror.Machines (setns descriptor before).2 (setns descriptor' before').2 := by
  simp only [Syscall.setns, Op.kernel_bind, leads]
  refine request (notes _) (fun _ => rfl) ?_ machines
  cases before.kernel.network? descriptor with
  | none => exact .pure (.refl _)
  | some location =>
      refine .bind thread fun thread _ same => ?_
      subst same
      split
      · exact .bind (moveTo location) fun _ _ _ => .pure (.refl _)
      · exact .pure (.refl _)

theorem setns_renumbered (descriptor : Descriptor) :
    mirror.Ops (Answered Eq) (Syscall.setns descriptor)
      (Syscall.setns (mirror.descriptor descriptor)) :=
  fun _ _ machines => setns machines (machines.kernel.network? descriptor) fun _ => .renumbered _

theorem socket : mirror.Ops (Answered (mirror.descriptor · = ·)) Syscall.socket Syscall.socket := by
  refine request (.renumbered .socket) (fun same => by rw [← same]; rfl) ?_
  refine .bind thread fun thread _ same => ?_
  subst same
  exact .bind (allocate _) fun _ _ numbers => .pure (.ok numbers)

theorem getFlags (descriptor : Descriptor) (field : NameField) :
    mirror.Ops (Answered Eq) (getFlags descriptor field)
      (getFlags (mirror.descriptor descriptor) field) := by
  refine request (.renumbered (.getFlags descriptor field)) (fun _ => rfl) ?_
  refine .bind kernel fun kernel kernel' kernels => ?_
  simp only [kernels.object?, kernels.flags?]
  rcases kernel.object? descriptor with _ | _ | _ | bound
  case some.socket =>
    dsimp only
    cases kernel.flags? bound field.name <;> exact .pure (.refl _)
  all_goals exact .pure (.refl _)

theorem setFlags (descriptor : Descriptor) (field : NameField) (flags : UInt16) :
    mirror.Ops (Answered Eq) (setFlags descriptor field flags)
      (setFlags (mirror.descriptor descriptor) field flags) := by
  refine request (.renumbered (.setFlags descriptor field flags)) (fun _ => rfl) ?_
  refine .bind kernel fun kernel kernel' kernels => ?_
  simp only [kernels.object?, kernels.flags?]
  rcases kernel.object? descriptor with _ | _ | _ | bound
  case some.socket =>
    dsimp only
    split
    · exact .pure (.refl _)
    · refine .bind thread fun thread _ same => ?_
      subst same
      split
      · exact .bind (modifyKernel fun kernels => kernels.modifiedDevices bound _) fun _ _ _ =>
          .pure (.refl _)
      · exact .pure (.refl _)
  all_goals exact .pure (.refl _)

theorem spawn : mirror.Ops (Answered Eq) Syscall.spawn Syscall.spawn :=
  request (.renumbered .spawn) (fun _ => rfl) (.pure (.refl _))

end Mirror

end NetSwitch
