import NetSwitch.Proofs.Kernel.Extends
import NetSwitch.Kernel.Syscall

/-! What each system call changes.

The lemmas take a call that was made, `call before = (answer, after)`, and say how the
two machines differ: `Works` for a call that leaves its thread where it is, with the
descriptors that are open afterwards.
-/

namespace NetSwitch

open Kernel

/-- What an operation leaves alone that does not move its thread.  `descriptors` are
those that are open after it. -/
structure Machine.Works (before after : Machine) (descriptors : List (Descriptor × Object)) :
    Prop where
  thread : after.thread = before.thread
  files : after.kernel.files = before.kernel.files
  descriptors : after.kernel.descriptors = descriptors
  kernel : before.kernel.Extends after.kernel

/-- Work after which the same descriptors are open as before. -/
abbrev Machine.Quiet (before after : Machine) : Prop :=
  before.Works after before.kernel.descriptors

namespace Machine

variable {before middle after : Machine}
variable {descriptors : List (Descriptor × Object)}

theorem Quiet.refl (machine : Machine) : machine.Quiet machine :=
  ⟨rfl, rfl, rfl, .refl _⟩

theorem Quiet.trans_works (first : before.Quiet middle) (second : middle.Works after descriptors) :
    before.Works after descriptors :=
  ⟨second.thread.trans first.thread, second.files.trans first.files, second.descriptors,
    first.kernel.trans second.kernel⟩

theorem Works.trans_quiet (first : before.Works middle descriptors) (second : middle.Quiet after) :
    before.Works after descriptors :=
  ⟨second.thread.trans first.thread, second.files.trans first.files,
    second.descriptors.trans first.descriptors, first.kernel.trans second.kernel⟩

theorem Quiet.trans (first : before.Quiet middle) (second : middle.Quiet after) :
    before.Quiet after :=
  first.trans_works (first.descriptors ▸ second)

theorem Quiet.opened (quiet : before.Quiet after) : after.kernel.opened = before.kernel.opened := by
  rw [Kernel.opened, quiet.descriptors, Kernel.opened]

theorem Quiet.object? {descriptor : Descriptor} (quiet : before.Quiet after) :
    after.kernel.object? descriptor = before.kernel.object? descriptor := by
  rw [Kernel.object?, quiet.descriptors, Kernel.object?]

theorem Quiet.network? {descriptor : Descriptor} (quiet : before.Quiet after) :
    after.kernel.network? descriptor = before.kernel.network? descriptor := by
  simp only [Kernel.network?, quiet.object?]

theorem Works.node? {path : Path} (works : before.Works after descriptors) :
    after.kernel.node? after.thread.location path =
      before.kernel.node? before.thread.location path := by
  rw [Kernel.node?, Kernel.node?, works.files, works.thread]

/-- Machines of which nothing but the log differs. -/
structure Alike (before after : Machine) : Prop where
  kernel : after.kernel = before.kernel
  thread : after.thread = before.thread

theorem Alike.refl (machine : Machine) : machine.Alike machine :=
  ⟨rfl, rfl⟩

theorem Alike.symm (alike : before.Alike after) : after.Alike before :=
  ⟨alike.kernel.symm, alike.thread.symm⟩

theorem Alike.trans (first : before.Alike middle) (second : middle.Alike after) :
    before.Alike after :=
  ⟨second.kernel.trans first.kernel, second.thread.trans first.thread⟩

theorem Alike.quiet (alike : before.Alike after) : before.Quiet after := by
  obtain ⟨kernel, thread⟩ := alike
  refine ⟨thread, ?_, ?_, ?_⟩
  · rw [kernel]
  · rw [kernel]
  · rw [kernel]
    exact .refl _

/-- Work that leaves one more descriptor open, which refers to an object and has not been
given out before. -/
structure Makes (before after : Machine) (descriptor : Descriptor) (object : Object) : Prop where
  fresh : before.kernel.made < descriptor.number
  works : before.Works after (before.kernel.descriptors ++ [(descriptor, object)])

section Makes

variable {descriptor : Descriptor} {object : Object}

theorem Quiet.trans_makes (first : before.Quiet middle)
    (second : middle.Makes after descriptor object) : before.Makes after descriptor object where
  fresh := Nat.lt_of_le_of_lt first.kernel.made second.fresh
  works := first.trans_works (first.descriptors ▸ second.works)

theorem Makes.trans_quiet (first : before.Makes middle descriptor object)
    (second : middle.Quiet after) : before.Makes after descriptor object :=
  ⟨first.fresh, first.works.trans_quiet second⟩

theorem Makes.opened (makes : before.Makes after descriptor object) :
    after.kernel.opened = before.kernel.opened ++ [descriptor] := by
  rw [Kernel.opened, makes.works.descriptors, Kernel.opened, List.map_append]
  rfl

theorem Makes.not_opened (makes : before.Makes after descriptor object) :
    descriptor ∉ before.kernel.opened :=
  fun isOpen => Nat.not_lt.mpr (opened_bounded isOpen) makes.fresh

theorem Makes.mem_opened (makes : before.Makes after descriptor object) :
    descriptor ∈ after.kernel.opened := by
  rw [makes.opened]
  exact List.mem_append_right _ (List.mem_singleton_self _)

theorem Makes.object? (makes : before.Makes after descriptor object) :
    after.kernel.object? descriptor = some object := by
  rw [Kernel.object?, makes.works.descriptors, lookup_append_of_not_mem makes.not_opened]
  simp

/-- Without the new descriptor, the descriptors are those from before. -/
theorem Makes.filter_ne (makes : before.Makes after descriptor object) :
    after.kernel.descriptors.filter (·.1 ≠ descriptor) = before.kernel.descriptors := by
  have kept : before.kernel.descriptors.filter (·.1 ≠ descriptor) = before.kernel.descriptors := by
    refine List.filter_eq_self.mpr fun entry member => decide_eq_true fun same => ?_
    exact makes.not_opened (same ▸ List.mem_map_of_mem member)
  rw [makes.works.descriptors, List.filter_append, kept]
  simp

theorem Makes.trans_close (makes : before.Makes middle descriptor object)
    (closes : middle.Works after (middle.kernel.descriptors.filter (·.1 ≠ descriptor))) :
    before.Quiet after := by
  rw [makes.filter_ne] at closes
  exact ⟨closes.thread.trans makes.works.thread, closes.files.trans makes.works.files,
    closes.descriptors, makes.works.kernel.trans closes.kernel⟩

end Makes

/-- What can be said of work on descriptors that need not be open: the thread is where it
was, and the trace has grown. -/
structure Trails (before after : Machine) : Prop where
  thread : after.thread = before.thread
  trace : before.kernel.trace <+: after.kernel.trace

theorem Trails.refl (machine : Machine) : machine.Trails machine :=
  ⟨rfl, List.prefix_refl _⟩

theorem Trails.trans (first : before.Trails middle) (second : middle.Trails after) :
    before.Trails after :=
  ⟨second.thread.trans first.thread, first.trace.trans second.trace⟩

theorem Works.trails (works : before.Works after descriptors) : before.Trails after := by
  obtain ⟨entries, trace, -⟩ := works.kernel.entries
  exact ⟨works.thread, entries, trace.symm⟩

def met (machine : Machine) (kind : CallKind) : Machine :=
  { machine with
    kernel := { machine.kernel with faults := (Fault.meet kind machine.kernel.faults).2 } }

def noted (machine : Machine) (entry : Entry) : Machine :=
  { machine with kernel := { machine.kernel with trace := machine.kernel.trace ++ [entry] } }

/-- What a call does when the armed faults have let it pass, if it makes and closes no
descriptor. -/
structure Serves (before after : Machine) : Prop where
  thread : after.thread = before.thread
  files : after.kernel.files = before.kernel.files
  descriptors : after.kernel.descriptors = before.kernel.descriptors
  made : after.kernel.made = before.kernel.made
  trace : after.kernel.trace = before.kernel.trace

theorem Serves.refl (machine : Machine) : machine.Serves machine :=
  ⟨rfl, rfl, rfl, rfl, rfl⟩

end Machine

/-! ### Running one operation after another -/

namespace Op

variable {first : Op α} {next : α → Op β} {before after : Machine} {value : β}

theorem bind_apply : (first >>= next) before = next (first before).1 (first before).2 :=
  rfl

theorem pure_apply : (pure value : Op β) before = (value, before) :=
  rfl

theorem kernel_apply : Op.kernel before = (before.kernel, before) :=
  rfl

theorem modifyKernel_apply {change : Kernel → Kernel} :
    modifyKernel change before = ((), { before with kernel := change before.kernel }) :=
  rfl

theorem kernel_bind {next : Kernel → Op β} :
    (Op.kernel >>= next) before = next before.kernel before :=
  rfl

theorem thread_bind {next : Thread → Op β} :
    (Op.thread >>= next) before = next before.thread before :=
  rfl

theorem modifyKernel_bind {change : Kernel → Kernel} {next : Unit → Op β} :
    (modifyKernel change >>= next) before =
      next () { before with kernel := change before.kernel } :=
  rfl

theorem bind_ran : (first >>= next) before = (value, after) ↔
    ∃ found middle, first before = (found, middle) ∧ next found middle = (value, after) :=
  ⟨fun ran => ⟨_, _, rfl, ran⟩, fun ⟨_, _, ranFirst, ranNext⟩ => by
    rw [bind_apply, ranFirst]
    exact ranNext⟩

theorem emit_alike {event : Log.Event} (ran : emit event before = ((), after)) :
    before.Alike after := by
  cases ran
  exact ⟨rfl, rfl⟩

theorem emit_ran {event : Log.Event} (ran : emit event before = ((), after)) :
    before.Quiet after :=
  (emit_alike ran).quiet

theorem setState_ran {state : SwitchState} (ran : setState state before = ((), after)) :
    after.kernel = before.kernel ∧ after.thread = { before.thread with state } := by
  cases ran
  exact ⟨rfl, rfl⟩

end Op

namespace Syscall

variable {before after : Machine} {descriptor : Descriptor} {path : Path}

def noteOf (report : α → Report) : Except Errno α → Report
  | .ok value => report value
  | .error errno => .failed errno

/-- A call is either kept from doing anything by a fault, or does what it is for. -/
theorem request_ran {call : Call} {report : α → Report} {serve : Op (Except Errno α)}
    {answer : Except Errno α} (ran : request call report serve before = (answer, after)) :
    (∃ errno, answer = .error errno ∧
        after = (before.met call.kind).noted ⟨call, .failed errno⟩) ∨
      ∃ served, serve (before.met call.kind) = (answer, served) ∧
        after = served.noted ⟨call, noteOf report answer⟩ := by
  cases meeting : Fault.meet call.kind before.kernel.faults with
  | mk fault faults =>
      have met : before.met call.kind = { before with kernel := { before.kernel with faults } } := by
        rw [Machine.met, meeting]
      simp only [request, meetFaults, record, Op.bind_apply, Op.kernel_apply,
        Op.modifyKernel_apply, Op.pure_apply, meeting] at ran
      rw [met]
      cases fault with
      | some errno =>
          cases ran
          exact .inl ⟨errno, rfl, rfl⟩
      | none =>
          cases ran
          exact .inr ⟨_, rfl, rfl⟩

/-- A call that makes and closes no descriptor changes nothing but the faults, the trace,
and what it is for. -/
theorem request_quiet {call : Call} {report : α → Report} {serve : Op (Except Errno α)}
    {answer : Except Errno α} (ran : request call report serve before = (answer, after))
    (allowed : ∀ descriptor ∈ call.descriptor?, descriptor ∈ before.kernel.opened)
    (notClosing : ∀ descriptor, call ≠ .close descriptor)
    (silent : ∀ value descriptor, report value ≠ .made descriptor)
    (serves : ∀ machine : Machine, machine.Serves (serve machine).2) : before.Quiet after := by
  rcases request_ran ran with ⟨errno, -, rfl⟩ | ⟨served, ranServe, rfl⟩
  · exact ⟨rfl, rfl, rfl, .of_quiet rfl rfl rfl allowed notClosing (by simp)⟩
  · have serving := serves (before.met call.kind)
    rw [ranServe] at serving
    refine ⟨serving.thread, serving.files, serving.descriptors, .of_quiet serving.descriptors
      serving.made (congrArg (· ++ [_]) serving.trace) allowed notClosing ?_⟩
    cases answer with
    | ok value => exact silent value
    | error errno => exact fun _ => Report.noConfusion

theorem fstatfs_quiet {answer : Except Errno Bool} (isOpen : descriptor ∈ before.kernel.opened)
    (ran : fstatfs descriptor before = (answer, after)) : before.Quiet after := by
  refine request_quiet ran (by simpa [Call.descriptor?] using isOpen) (by simp) (by simp) ?_
  intro machine
  simp only [Op.kernel_bind]
  rcases machine.kernel.object? descriptor with _ | _ | _ | _ <;> exact .refl machine

theorem namespaceFile_of_fstatfs (ran : fstatfs descriptor before = (.ok true, after)) :
    ∃ file, before.kernel.object? descriptor = some (.namespaceFile file) := by
  rcases request_ran ran with ⟨errno, failed, -⟩ | ⟨served, ranServe, -⟩
  · cases failed
  · simp only [Op.kernel_bind] at ranServe
    have same : (before.met (Call.fstatfs descriptor).kind).kernel.object? descriptor =
        before.kernel.object? descriptor := rfl
    rw [same] at ranServe
    generalize before.kernel.object? descriptor = object at ranServe ⊢
    rcases object with _ | file | _ | _
    · cases ranServe
    · exact ⟨file, rfl⟩
    · cases ranServe
    · cases ranServe

theorem nstype_quiet {answer : Except Errno Int} (isOpen : descriptor ∈ before.kernel.opened)
    (ran : nstype descriptor before = (answer, after)) : before.Quiet after := by
  refine request_quiet ran (by simpa [Call.descriptor?] using isOpen) (by simp) (by simp) ?_
  intro machine
  simp only [Op.kernel_bind]
  rcases machine.kernel.object? descriptor with _ | ⟨⟨_, _, _ | _⟩⟩ | _ | _ <;> exact .refl machine

theorem fstat_quiet {answer : Except Errno UInt64} (isOpen : descriptor ∈ before.kernel.opened)
    (ran : fstat descriptor before = (answer, after)) : before.Quiet after := by
  refine request_quiet ran (by simpa [Call.descriptor?] using isOpen) (by simp) (by simp) ?_
  intro machine
  simp only [Op.kernel_bind]
  rcases machine.kernel.object? descriptor with _ | _ | _ | _ <;> exact .refl machine

theorem stat_quiet {answer : Except Errno UInt64} (ran : stat path before = (answer, after)) :
    before.Quiet after := by
  refine request_quiet ran (by simp [Call.descriptor?]) (by simp) (by simp) ?_
  intro machine
  simp only [Op.kernel_bind, Op.thread_bind]
  rcases machine.kernel.node? machine.thread.location path with _ | _ | _ | _ <;>
    exact .refl machine

theorem spawn_quiet {answer : Except Errno Unit} (ran : spawn before = (answer, after)) :
    before.Quiet after :=
  request_quiet ran (by simp [Call.descriptor?]) (by simp) (by simp) .refl

theorem getFlags_quiet {answer : Except Errno UInt16} {field : NameField}
    (isOpen : descriptor ∈ before.kernel.opened)
    (ran : getFlags descriptor field before = (answer, after)) : before.Quiet after := by
  refine request_quiet ran (by simpa [Call.descriptor?] using isOpen) (by simp) (by simp) ?_
  intro machine
  simp only [Op.kernel_bind]
  rcases machine.kernel.object? descriptor with _ | _ | _ | bound
  case some.socket =>
    dsimp only
    cases machine.kernel.flags? bound field.name <;> exact .refl machine
  all_goals exact .refl machine

theorem setFlags_quiet {answer : Except Errno Unit} {field : NameField} {flags : UInt16}
    (isOpen : descriptor ∈ before.kernel.opened)
    (ran : setFlags descriptor field flags before = (answer, after)) : before.Quiet after := by
  refine request_quiet ran (by simpa [Call.descriptor?] using isOpen) (by simp) (by simp) ?_
  intro machine
  simp only [Op.kernel_bind]
  rcases machine.kernel.object? descriptor with _ | _ | _ | bound
  case some.socket =>
    dsimp only
    by_cases missing : (machine.kernel.flags? bound field.name).isNone
    · rw [if_pos missing]
      exact .refl machine
    · rw [if_neg missing]
      simp only [Op.thread_bind]
      cases machine.thread.privileged <;> exact ⟨rfl, rfl, rfl, rfl, rfl⟩
  all_goals exact .refl machine

/-- A call that is for making a descriptor fails and makes none, or makes the next one, for
an object that it was asked for. -/
theorem request_made {call : Call} {serve : Op (Except Errno Descriptor)}
    {answer : Except Errno Descriptor} (Wanted : Machine → Object → Prop)
    (ran : request call .made serve before = (answer, after))
    (allowed : ∀ descriptor ∈ call.descriptor?, descriptor ∈ before.kernel.opened)
    (notClosing : ∀ descriptor, call ≠ .close descriptor)
    (serves : ∀ machine, (∃ errno, serve machine = (.error errno, machine)) ∨
      ∃ object, Wanted machine object ∧ serve machine =
        (.ok ⟨machine.kernel.made + 1⟩,
          { machine with kernel := (machine.kernel.allocate object).2 })) :
    (∃ errno, answer = .error errno ∧ before.Quiet after) ∨
      ∃ descriptor object, Wanted (before.met call.kind) object ∧ answer = .ok descriptor ∧
        before.Makes after descriptor object := by
  rcases request_ran ran with ⟨errno, failed, rfl⟩ | ⟨served, ranServe, rfl⟩
  · exact .inl ⟨errno, failed, rfl, rfl, rfl, .of_quiet rfl rfl rfl allowed notClosing (by simp)⟩
  · rcases serves (before.met call.kind) with ⟨errno, serving⟩ | ⟨object, wanted, serving⟩
    · cases serving.symm.trans ranServe
      exact .inl ⟨errno, rfl, rfl, rfl, rfl, .of_quiet rfl rfl rfl allowed notClosing
        (by simp [noteOf])⟩
    · cases serving.symm.trans ranServe
      exact .inr ⟨_, object, wanted, rfl, Nat.lt_succ_self _, rfl, rfl, rfl,
        .of_made rfl rfl rfl allowed notClosing⟩

theorem openOnce_ran {answer : Except Errno Descriptor}
    (ran : openOnce path before = (answer, after)) :
    (∃ errno, answer = .error errno ∧ before.Quiet after) ∨
      ∃ descriptor object, (∀ file, object = .namespaceFile file →
          before.kernel.node? before.thread.location path = some (.namespaceFile file)) ∧
        answer = .ok descriptor ∧ before.Makes after descriptor object := by
  refine request_made (fun machine object => ∀ file, object = .namespaceFile file →
    machine.kernel.node? machine.thread.location path = some (.namespaceFile file)) ran
    (by simp [Call.descriptor?]) (by simp) ?_
  intro machine
  simp only [Op.kernel_bind, Op.thread_bind]
  cases found : machine.kernel.node? machine.thread.location path with
  | none => exact .inl ⟨_, rfl⟩
  | some node =>
      cases node with
      | failing errno => exact .inl ⟨_, rfl⟩
      | plain => exact .inr ⟨.plain, by simp, rfl⟩
      | namespaceFile file => exact .inr ⟨.namespaceFile file, by simp, rfl⟩

theorem openAgain_ran {answer : Except Errno Descriptor} {times : Nat}
    (ran : openAgain path times before = (answer, after)) :
    (∃ errno, answer = .error errno ∧ before.Quiet after) ∨
      ∃ descriptor object, (∀ file, object = .namespaceFile file →
          before.kernel.node? before.thread.location path = some (.namespaceFile file)) ∧
        answer = .ok descriptor ∧ before.Makes after descriptor object := by
  induction times generalizing before with
  | zero => exact openOnce_ran ran
  | succ times ih =>
      obtain ⟨first, middle, ranFirst, ranRest⟩ := Op.bind_ran.mp ran
      rcases openOnce_ran ranFirst with ⟨errno, rfl, quiet⟩ | ⟨descriptor, object, wanted, rfl, makes⟩
      · dsimp only at ranRest
        by_cases interrupted : errno = .interrupted
        · rw [if_pos interrupted] at ranRest
          rcases ih ranRest with ⟨last, failed, rest⟩ | ⟨descriptor, object, wanted, made, rest⟩
          · exact .inl ⟨last, failed, quiet.trans rest⟩
          · rw [quiet.node?] at wanted
            exact .inr ⟨descriptor, object, wanted, made, quiet.trans_makes rest⟩
        · rw [if_neg interrupted] at ranRest
          cases ranRest
          exact .inl ⟨errno, rfl, quiet⟩
      · cases ranRest
        exact .inr ⟨descriptor, object, wanted, rfl, makes⟩

theorem openFile_ran {answer : Except Errno Descriptor}
    (ran : openFile path before = (answer, after)) :
    (∃ errno, answer = .error errno ∧ before.Quiet after) ∨
      ∃ descriptor object, (∀ file, object = .namespaceFile file →
          before.kernel.node? before.thread.location path = some (.namespaceFile file)) ∧
        answer = .ok descriptor ∧ before.Makes after descriptor object :=
  openAgain_ran ran

theorem dup_ran {answer : Except Errno Descriptor} (isOpen : descriptor ∈ before.kernel.opened)
    (ran : dup descriptor before = (answer, after)) :
    (∃ errno, answer = .error errno ∧ before.Quiet after) ∨
      ∃ copy object, before.kernel.object? descriptor = some object ∧ answer = .ok copy ∧
        before.Makes after copy object := by
  refine request_made (fun machine object => machine.kernel.object? descriptor = some object) ran
    (by simpa [Call.descriptor?] using isOpen) (by simp) ?_
  intro machine
  simp only [Op.kernel_bind]
  cases machine.kernel.object? descriptor with
  | none => exact .inl ⟨_, rfl⟩
  | some object => exact .inr ⟨object, rfl, rfl⟩

theorem dup_trails {answer : Except Errno Descriptor}
    (ran : dup descriptor before = (answer, after)) : before.Trails after := by
  rcases request_ran ran with ⟨errno, -, rfl⟩ | ⟨served, ranServe, rfl⟩
  · exact ⟨rfl, List.prefix_append ..⟩
  · simp only [Op.kernel_bind] at ranServe
    cases found : (before.met (Call.dup descriptor).kind).kernel.object? descriptor with
    | none =>
        simp only [found] at ranServe
        cases ranServe
        exact ⟨rfl, List.prefix_append ..⟩
    | some object =>
        simp only [found] at ranServe
        cases ranServe
        exact ⟨rfl, List.prefix_append ..⟩

theorem socket_ran {answer : Except Errno Descriptor} (ran : socket before = (answer, after)) :
    (∃ errno, answer = .error errno ∧ before.Quiet after) ∨
      ∃ descriptor object, object = .socket before.thread.location ∧ answer = .ok descriptor ∧
        before.Makes after descriptor object :=
  request_made (fun machine object => object = .socket machine.thread.location) ran
    (by simp [Call.descriptor?]) (by simp) fun _ => .inr ⟨_, rfl, rfl⟩

/-- A closed descriptor is gone, whatever closing it answered, and no other is. -/
theorem close_ran {answer : Except Errno Unit} (ran : close descriptor before = (answer, after)) :
    after.thread = before.thread ∧ after.kernel.files = before.kernel.files ∧
      after.kernel.descriptors = before.kernel.descriptors.filter (·.1 ≠ descriptor) ∧
      after.kernel.made = before.kernel.made ∧
      ∃ report, after.kernel.trace = before.kernel.trace ++ [⟨.close descriptor, report⟩] ∧
        ∀ other, report ≠ .made other := by
  simp only [close, Op.kernel_bind, Op.modifyKernel_bind] at ran
  rcases request_ran ran with ⟨errno, -, rfl⟩ | ⟨served, ranServe, rfl⟩
  · exact ⟨rfl, rfl, rfl, rfl, _, rfl, by simp⟩
  · cases ranServe
    refine ⟨rfl, rfl, rfl, rfl, _, rfl, ?_⟩
    cases (before.kernel.object? descriptor).isSome <;> simp [noteOf]

theorem close_works {answer : Except Errno Unit} (isOpen : descriptor ∈ before.kernel.opened)
    (ran : close descriptor before = (answer, after)) :
    before.Works after (before.kernel.descriptors.filter (·.1 ≠ descriptor)) := by
  obtain ⟨thread, files, descriptors, made, report, trace, silent⟩ := close_ran ran
  exact ⟨thread, files, descriptors, .of_closed isOpen descriptors made trace silent⟩

theorem close_trails {answer : Except Errno Unit} (ran : close descriptor before = (answer, after)) :
    before.Trails after := by
  obtain ⟨thread, -, -, -, report, trace, -⟩ := close_ran ran
  exact ⟨thread, _, trace.symm⟩

/-- A thread is moved to the namespace of the descriptor, or left where it is.  In either
case the call is in the trace with what it answered. -/
theorem setns_ran {answer : Except Errno Unit} (ran : setns descriptor before = (answer, after)) :
    after.kernel.files = before.kernel.files ∧
      after.kernel.descriptors = before.kernel.descriptors ∧
      after.kernel.made = before.kernel.made ∧
      after.kernel.trace = before.kernel.trace ++
        [⟨.setns descriptor (before.kernel.network? descriptor), noteOf (fun _ => .ok) answer⟩] ∧
      ((∃ errno, answer = .error errno ∧ after.thread = before.thread) ∨
        ∃ location, answer = .ok () ∧ before.kernel.network? descriptor = some location ∧
          after.thread = { before.thread with location }) := by
  simp only [setns, Op.kernel_bind] at ran
  rcases request_ran ran with ⟨errno, rfl, rfl⟩ | ⟨served, ranServe, rfl⟩
  · exact ⟨rfl, rfl, rfl, rfl, .inl ⟨errno, rfl, rfl⟩⟩
  · generalize before.kernel.network? descriptor = network at *
    rcases network with _ | location
    · cases ranServe
      exact ⟨rfl, rfl, rfl, rfl, .inl ⟨_, rfl, rfl⟩⟩
    · simp only [Op.thread_bind] at ranServe
      split at ranServe
      · cases ranServe
        exact ⟨rfl, rfl, rfl, rfl, .inr ⟨location, rfl, rfl, rfl⟩⟩
      · cases ranServe
        exact ⟨rfl, rfl, rfl, rfl, .inl ⟨_, rfl, rfl⟩⟩

theorem setns_extends {answer : Except Errno Unit} (isOpen : descriptor ∈ before.kernel.opened)
    (ran : setns descriptor before = (answer, after)) : before.kernel.Extends after.kernel := by
  obtain ⟨-, descriptors, made, trace, -⟩ := setns_ran ran
  refine .of_quiet descriptors made trace (by simpa [Call.descriptor?] using isOpen) (by simp) ?_
  cases answer <;> simp [noteOf]

theorem setns_refused {errno : Errno} (isOpen : descriptor ∈ before.kernel.opened)
    (ran : setns descriptor before = (.error errno, after)) : before.Quiet after := by
  obtain ⟨files, descriptors, -, -, ⟨-, -, thread⟩ | ⟨-, failed, -⟩⟩ := setns_ran ran
  · exact ⟨thread, files, descriptors, setns_extends isOpen ran⟩
  · cases failed

end Syscall

end NetSwitch
