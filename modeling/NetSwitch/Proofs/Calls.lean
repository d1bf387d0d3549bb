import NetSwitch.Proofs.Course
import NetSwitch.Proofs.Handle

/-! The system calls of a run, with the machines between them.

Every operation is a course of system calls, so what no call of a kind can do is shown of the
call, and of an operation only which kinds of calls it makes.
-/

namespace NetSwitch

open Kernel (Call CallKind Descriptor Entry Fault NameField Report)

/-- Whether a call has to do with a device. -/
def Kernel.CallKind.concernsDevice : CallKind → Bool
  | .socket => true
  | .getFlags => true
  | .setFlags => true
  | _ => false

/-- Whether a call is one for moving a thread. -/
def Kernel.Entry.moves (entry : Entry) : Bool :=
  entry.call.kind = .setns

def Kernel.Entry.concernsDevice (entry : Entry) : Bool :=
  entry.call.kind.concernsDevice

namespace Syscall

/-- The call of an entry of the trace, made on one machine and leaving another. -/
inductive Does : Entry → Machine → Machine → Prop where
  | openFile {path answer before after} (ran : Syscall.openOnce path before = (answer, after)) :
      Does ⟨.openFile path, noteOf .made answer⟩ before after
  | fstatfs {descriptor answer before after}
      (ran : Syscall.fstatfs descriptor before = (answer, after)) :
      Does ⟨.fstatfs descriptor, noteOf (fun _ => .ok) answer⟩ before after
  | nstype {descriptor answer before after}
      (ran : Syscall.nstype descriptor before = (answer, after)) :
      Does ⟨.nstype descriptor, noteOf (fun _ => .ok) answer⟩ before after
  | fstat {descriptor answer before after}
      (ran : Syscall.fstat descriptor before = (answer, after)) :
      Does ⟨.fstat descriptor, noteOf (fun _ => .ok) answer⟩ before after
  | stat {path answer before after} (ran : Syscall.stat path before = (answer, after)) :
      Does ⟨.stat path, noteOf (fun _ => .ok) answer⟩ before after
  | dup {descriptor answer before after} (ran : Syscall.dup descriptor before = (answer, after)) :
      Does ⟨.dup descriptor, noteOf .made answer⟩ before after
  | close {descriptor answer before after}
      (ran : Syscall.close descriptor before = (answer, after)) :
      Does ⟨.close descriptor, noteOf (fun _ => .ok) answer⟩ before after
  | setns {descriptor answer before after}
      (ran : Syscall.setns descriptor before = (answer, after)) :
      Does ⟨.setns descriptor (before.kernel.network? descriptor), noteOf (fun _ => .ok) answer⟩
        before after
  | socket {answer before after} (ran : Syscall.socket before = (answer, after)) :
      Does ⟨.socket, noteOf .made answer⟩ before after
  | getFlags {descriptor field answer before after}
      (ran : Syscall.getFlags descriptor field before = (answer, after)) :
      Does ⟨.getFlags descriptor field, noteOf (fun _ => .ok) answer⟩ before after
  | setFlags {descriptor field flags answer before after}
      (ran : Syscall.setFlags descriptor field flags before = (answer, after)) :
      Does ⟨.setFlags descriptor field flags, noteOf (fun _ => .ok) answer⟩ before after
  | spawn {answer before after} (ran : Syscall.spawn before = (answer, after)) :
      Does ⟨.spawn, noteOf (fun _ => .ok) answer⟩ before after

variable {before after : Machine} {entry : Entry}

/-- What a call of a kind leaves alone while it is served. -/
structure Tends (kind : CallKind) (before after : Machine) : Prop where
  namespaces : kind ≠ .setFlags → after.kernel.namespaces = before.kernel.namespaces
  location : kind ≠ .setns → after.thread.location = before.thread.location
  files : after.kernel.files = before.kernel.files
  faults : after.kernel.faults = before.kernel.faults
  trace : after.kernel.trace = before.kernel.trace
  privileged : after.thread.privileged = before.thread.privileged
  state : after.thread.state = before.thread.state

theorem Tends.refl (kind : CallKind) (machine : Machine) : Tends kind machine machine :=
  ⟨fun _ => rfl, fun _ => rfl, rfl, rfl, rfl, rfl, rfl⟩

theorem request_tends {call : Call} {report : α → Report} {serve : Op (Except Errno α)}
    {answer : Except Errno α} (ran : request call report serve before = (answer, after))
    (serves : ∀ machine, Tends call.kind machine (serve machine).2) :
    ∃ served, Tends call.kind (before.met call.kind) served ∧
      after = served.noted ⟨call, noteOf report answer⟩ := by
  rcases request_ran ran with ⟨errno, rfl, rfl⟩ | ⟨served, ranServe, rfl⟩
  · exact ⟨_, .refl .., rfl⟩
  · have tends := serves (before.met call.kind)
    rw [ranServe] at tends
    exact ⟨served, tends, rfl⟩

theorem Does.tends (does : Does entry before after) :
    ∃ served, Tends entry.call.kind (before.met entry.call.kind) served ∧
      after = served.noted entry := by
  cases does with
  | @openFile path answer _ _ ran =>
      refine request_tends ran fun machine => ?_
      simp only [Op.kernel_bind, Op.thread_bind]
      rcases machine.kernel.node? machine.thread.location path with _ | _ | _ | _ <;>
        exact ⟨fun _ => rfl, fun _ => rfl, rfl, rfl, rfl, rfl, rfl⟩
  | @fstatfs descriptor answer _ _ ran =>
      refine request_tends ran fun machine => ?_
      simp only [Op.kernel_bind]
      rcases machine.kernel.object? descriptor with _ | _ | _ | _ <;> exact .refl ..
  | @nstype descriptor answer _ _ ran =>
      refine request_tends ran fun machine => ?_
      simp only [Op.kernel_bind]
      rcases machine.kernel.object? descriptor with _ | ⟨⟨_, _, _ | _⟩⟩ | _ | _ <;> exact .refl ..
  | @fstat descriptor answer _ _ ran =>
      refine request_tends ran fun machine => ?_
      simp only [Op.kernel_bind]
      rcases machine.kernel.object? descriptor with _ | _ | _ | _ <;> exact .refl ..
  | @stat path answer _ _ ran =>
      refine request_tends ran fun machine => ?_
      simp only [Op.kernel_bind, Op.thread_bind]
      rcases machine.kernel.node? machine.thread.location path with _ | _ | _ | _ <;> exact .refl ..
  | @dup descriptor answer _ _ ran =>
      refine request_tends ran fun machine => ?_
      simp only [Op.kernel_bind]
      cases machine.kernel.object? descriptor <;>
        exact ⟨fun _ => rfl, fun _ => rfl, rfl, rfl, rfl, rfl, rfl⟩
  | close ran =>
      simp only [Syscall.close, Op.kernel_bind, Op.modifyKernel_bind] at ran
      obtain ⟨served, tends, rfl⟩ := request_tends ran fun machine => .refl ..
      exact ⟨served, ⟨tends.namespaces, tends.location, tends.files, tends.faults, tends.trace,
        tends.privileged, tends.state⟩, rfl⟩
  | setns ran =>
      simp only [Syscall.setns, Op.kernel_bind] at ran
      refine request_tends ran fun machine => ?_
      generalize before.kernel.network? _ = target
      cases target with
      | none => exact .refl ..
      | some location =>
          simp only [Op.thread_bind]
          cases machine.thread.privileged
          · exact .refl ..
          · exact ⟨fun _ => rfl, fun other => absurd rfl other, rfl, rfl, rfl, rfl, rfl⟩
  | socket ran =>
      exact request_tends ran fun machine => ⟨fun _ => rfl, fun _ => rfl, rfl, rfl, rfl, rfl, rfl⟩
  | @getFlags descriptor field answer _ _ ran =>
      refine request_tends ran fun machine => ?_
      simp only [Op.kernel_bind]
      rcases machine.kernel.object? descriptor with _ | _ | _ | bound
      case some.socket =>
        dsimp only
        cases machine.kernel.flags? bound field.name <;> exact .refl ..
      all_goals exact .refl ..
  | @setFlags descriptor field flags answer _ _ ran =>
      refine request_tends ran fun machine => ?_
      simp only [Op.kernel_bind]
      rcases machine.kernel.object? descriptor with _ | _ | _ | bound
      case some.socket =>
        dsimp only
        by_cases missing : (machine.kernel.flags? bound field.name).isNone
        · rw [if_pos missing]
          exact .refl ..
        · rw [if_neg missing]
          simp only [Op.thread_bind]
          cases machine.thread.privileged
          · exact .refl ..
          · exact ⟨fun other => absurd rfl other, fun _ => rfl, rfl, rfl, rfl, rfl, rfl⟩
      all_goals exact .refl ..
  | spawn ran => exact request_tends ran fun machine => .refl ..

theorem Does.trace (does : Does entry before after) :
    after.kernel.trace = before.kernel.trace ++ [entry] := by
  obtain ⟨served, tends, rfl⟩ := does.tends
  exact congrArg (· ++ [entry]) tends.trace

theorem Does.namespaces (does : Does entry before after) (spares : entry.call.kind ≠ .setFlags) :
    after.kernel.namespaces = before.kernel.namespaces := by
  obtain ⟨served, tends, rfl⟩ := does.tends
  exact tends.namespaces spares

theorem Does.files (does : Does entry before after) : after.kernel.files = before.kernel.files := by
  obtain ⟨served, tends, rfl⟩ := does.tends
  exact tends.files

end Syscall

/-! ### Courses of system calls -/

namespace Course

variable {before middle after : Machine} {moments rest : List (Moment Entry)}

theorem trace (course : Course Syscall.Does before moments after) :
    after.kernel.trace = before.kernel.trace ++ moments.map (·.step) := by
  induction course with
  | done pauses => simp [pauses.kernel]
  | step pauses ran course ih => simp [ih, ran.trace, pauses.kernel]

theorem namespaces (course : Course Syscall.Does before moments after)
    (spares : ∀ moment ∈ moments, moment.step.call.kind ≠ .setFlags) :
    after.kernel.namespaces = before.kernel.namespaces := by
  refine course.keeps (fun machine => machine.kernel.namespaces = before.kernel.namespaces)
    ?_ ?_ rfl
  · intro start finish pauses same
    rw [pauses.kernel, same]
  · intro moment member ran same
    rw [ran.namespaces (spares moment member), same]

theorem files (course : Course Syscall.Does before moments after) :
    after.kernel.files = before.kernel.files := by
  refine course.keeps (fun machine => machine.kernel.files = before.kernel.files) ?_ ?_ rfl
  · intro start finish pauses same
    rw [pauses.kernel, same]
  · intro moment _ ran same
    rw [ran.files, same]

end Course

/-- An operation that consists of system calls, all of which are allowed. -/
def Op.Calls (op : Op α) (allowed : Entry → Prop) : Prop :=
  ∀ before answer after, op before = (answer, after) →
    ∃ moments, Course Syscall.Does before moments after ∧ ∀ moment ∈ moments, allowed moment.step

namespace Op

variable {op first : Op α} {next : α → Op β} {allowed wider : Entry → Prop}

theorem Calls.files {answer : α} {before after : Machine} (calls : op.Calls allowed)
    (ran : op before = (answer, after)) : after.kernel.files = before.kernel.files := by
  obtain ⟨moments, course, -⟩ := calls _ _ _ ran
  exact course.files

theorem Calls.mono (calls : op.Calls allowed) (weaker : ∀ entry, allowed entry → wider entry) :
    op.Calls wider := by
  intro before answer after ran
  obtain ⟨moments, course, all⟩ := calls _ _ _ ran
  exact ⟨moments, course, fun moment member => weaker _ (all moment member)⟩

theorem calls_bind (calls : first.Calls allowed) (rest : ∀ value, (next value).Calls allowed) :
    (first >>= next).Calls allowed := by
  intro before answer after ran
  obtain ⟨found, middle, ranFirst, ranRest⟩ := Op.bind_ran.mp ran
  obtain ⟨moments, course, all⟩ := calls _ _ _ ranFirst
  obtain ⟨later, courseRest, allRest⟩ := rest found _ _ _ ranRest
  refine ⟨moments ++ later, course.append courseRest, fun moment member => ?_⟩
  rcases List.mem_append.mp member with earlier | here
  · exact all moment earlier
  · exact allRest moment here

theorem calls_of_pauses (pauses : ∀ before answer after, op before = (answer, after) →
    before.Pauses after) : op.Calls allowed := by
  intro before answer after ran
  exact ⟨[], .done (pauses _ _ _ ran), by simp⟩

theorem calls_pure (value : α) : (pure value : Op α).Calls allowed :=
  calls_of_pauses fun _ _ _ ran => by cases ran; exact .refl _

theorem calls_kernel : Op.kernel.Calls allowed :=
  calls_of_pauses fun _ _ _ ran => by cases ran; exact .refl _

theorem calls_thread : Op.thread.Calls allowed :=
  calls_of_pauses fun _ _ _ ran => by cases ran; exact .refl _

theorem calls_emit (event : Log.Event) : (Op.emit event).Calls allowed :=
  calls_of_pauses fun _ _ _ => .of_emit

theorem calls_setState (state : SwitchState) : (Op.setState state).Calls allowed :=
  calls_of_pauses fun _ _ _ => .of_setState

theorem calls_of_does {entry : Machine → α → Entry}
    (does : ∀ {before answer after}, op before = (answer, after) →
      Syscall.Does (entry before answer) before after)
    (permits : ∀ before answer, allowed (entry before answer)) : op.Calls allowed := by
  intro before answer after ran
  exact ⟨[⟨before, entry before answer, after⟩], .single (does ran), by simpa using permits _ _⟩

end Op

/-! ### Operations on handles -/

/-- Whether a call neither moves a thread nor has to do with a device. -/
def Kernel.Entry.Aside (entry : Entry) : Prop :=
  entry.moves = false ∧ entry.concernsDevice = false

theorem Syscall.openAgain_calls (path : Path) (times : Nat) :
    (Syscall.openAgain path times).Calls Entry.Aside := by
  have once : (Syscall.openOnce path).Calls Entry.Aside :=
    Op.calls_of_does Does.openFile fun _ _ => ⟨rfl, rfl⟩
  induction times with
  | zero => exact once
  | succ times ih =>
      refine Op.calls_bind once fun found => ?_
      rcases found with errno | descriptor
      · dsimp only
        split
        · exact ih
        · exact Op.calls_pure _
      · exact Op.calls_pure _

theorem Syscall.openFile_calls (path : Path) : (Syscall.openFile path).Calls Entry.Aside :=
  Op.calls_bind Op.calls_kernel fun _ => openAgain_calls path _

theorem Syscall.close_calls (descriptor : Descriptor) :
    (Syscall.close descriptor).Calls Entry.Aside :=
  Op.calls_of_does Does.close fun _ _ => ⟨rfl, rfl⟩

namespace Handle

theorem isNetwork_calls (descriptor : Descriptor) : (isNetwork descriptor).Calls Entry.Aside := by
  refine Op.calls_bind (Op.calls_of_does Syscall.Does.fstatfs fun _ _ => ⟨rfl, rfl⟩) fun found => ?_
  rcases found with errno | _ | _
  · exact Op.calls_pure _
  · exact Op.calls_pure _
  · refine Op.calls_bind (Op.calls_of_does Syscall.Does.nstype fun _ _ => ⟨rfl, rfl⟩) fun type => ?_
    rcases type with errno | type
    · dsimp only
      split <;> exact Op.calls_pure _
    · dsimp only
      split <;> exact Op.calls_pure _

theorem identify_calls (path : Path) (descriptor : Descriptor) :
    (identify path descriptor).Calls Entry.Aside := by
  refine Op.calls_bind (isNetwork_calls descriptor) fun found => ?_
  rcases found with errno | _ | _
  · exact Op.calls_pure _
  · exact Op.calls_pure _
  · refine Op.calls_bind (Op.calls_of_does Syscall.Does.fstat fun _ _ => ⟨rfl, rfl⟩) fun inode => ?_
    rcases inode with errno | inode <;> exact Op.calls_pure _

theorem adopt_calls (path : Path) (descriptor : Descriptor) :
    (adopt path descriptor).Calls Entry.Aside := by
  refine Op.calls_bind (identify_calls path descriptor) fun found => ?_
  rcases found with e | id
  · exact Op.calls_bind (Syscall.close_calls descriptor) fun _ => Op.calls_pure _
  · exact Op.calls_bind (Op.calls_emit _) fun _ => Op.calls_pure _

theorem openPath_calls (path : Path) : (openPath path).Calls Entry.Aside := by
  unfold openPath
  split
  · exact Op.calls_pure _
  · refine Op.calls_bind (Syscall.openFile_calls path) fun found => ?_
    rcases found with errno | descriptor
    · exact Op.calls_pure _
    · exact adopt_calls path descriptor

theorem close_calls (handle : Handle) : handle.close.Calls Entry.Aside := by
  unfold close
  split
  · exact Op.calls_pure _
  · rename_i descriptor _
    refine Op.calls_bind (Syscall.close_calls descriptor) fun closed => ?_
    rcases closed with errno | ⟨⟩
    · exact Op.calls_pure _
    · exact Op.calls_bind (Op.calls_emit _) fun _ => Op.calls_pure _

end Handle

end NetSwitch
