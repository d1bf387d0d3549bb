import NetSwitch.Proofs.Calm
import NetSwitch.Proofs.Handle.Missing
import NetSwitch.Proofs.Identity
import NetSwitch.Proofs.Switch.Obstacle

/-! What comes of opening a path, by what the calls that are made answer.

A path is opened by up to four calls, and the same number means one thing for the first of them and
another for the rest.  There are four ways in which it can end: with a handle, with nothing found,
with being kept out, and with any other failure.
-/

namespace NetSwitch

open Kernel (CallKind Descriptor Fault)

/-! ### Trying again

An interrupted call is made again as long as a fault could take notice of it.  After that only the
file itself interrupts, and it does so for ever. -/

namespace Kernel.Fault

variable {kind : CallKind} {faults : List Fault}

theorem awaits_pass (fault : Fault) : (fault.pass kind).awaits kind = fault.awaits kind := by
  unfold pass
  split <;> rfl

theorem patience_map_pass (faults : List Fault) :
    patience kind (faults.map (pass kind)) ≤ patience kind faults := by
  induction faults with
  | nil => exact Nat.le_refl _
  | cons fault rest ih =>
      have lets : (fault.pass kind).skip ≤ fault.skip ∧ (fault.pass kind).times = fault.times := by
        unfold pass
        split <;> simp
      simp only [List.map_cons, patience, awaits_pass]
      split <;> omega

/-- Every call uses up some of the patience that is left. -/
theorem patience_meet (faults : List Fault) :
    patience kind (meet kind faults).2 ≤ patience kind faults - 1 := by
  induction faults with
  | nil => exact Nat.le_refl _
  | cons fault rest ih =>
      rw [meet]
      split
      case isTrue fires =>
        obtain ⟨awaits, unskipped⟩ := fires
        have lets : 0 < fault.times := by simpa [Fault.awaits] using (Bool.and_eq_true_iff.mp awaits).2
        have others := @patience_map_pass kind rest
        simp only [patience, awaits, if_true, unskipped]
        split <;> omega
      case isFalse waits =>
        simp only [patience, awaits_pass]
        split
        case isTrue awaits =>
          have skips : fault.skip ≠ 0 := fun none => waits ⟨awaits, none⟩
          have passed : (fault.pass kind).skip = fault.skip - 1 ∧ (fault.pass kind).times = fault.times := by
            simp [pass, awaits]
          omega
        case isFalse => omega

theorem unarmed_of_patience (spent : patience kind faults = 0) : ∀ fault ∈ faults, fault.awaits kind = false := by
  induction faults with
  | nil => simp
  | cons fault rest ih =>
      simp only [patience, Nat.add_eq_zero_iff] at spent
      refine List.forall_mem_cons.mpr ⟨?_, ih spent.2⟩
      by_contra awaits
      simp only [Bool.not_eq_false] at awaits
      have lets : 0 < fault.times := by simpa [Fault.awaits] using (Bool.and_eq_true_iff.mp awaits).2
      simp only [awaits, if_true] at spent
      omega

end Kernel.Fault

namespace Syscall

variable {path : Path} {before after : Machine} {answer : Except Errno Descriptor}

/-- A file is opened again for as long as that is interrupted.  Only a file that interrupts every call
is given up. -/
inductive Tried (path : Path) : Machine → Except Errno Descriptor → Machine → Prop where
  | ended {before after : Machine} {answer : Except Errno Descriptor}
      (trying : openOnce path before = (answer, after)) (ends : answer ≠ .error .interrupted) :
      Tried path before answer after
  | again {before middle after : Machine} {answer : Except Errno Descriptor}
      (trying : openOnce path before = (.error .interrupted, middle)) (rest : Tried path middle answer after) :
      Tried path before answer after
  | endless {before after : Machine} (trying : openOnce path before = (.error .interrupted, after))
      (interrupts : before.kernel.node? before.thread.location path = some (.failing .interrupted)) :
      Tried path before (.error .interrupted) after

theorem openOnce_faults (ran : openOnce path before = (answer, after)) :
    after.kernel.faults = (Fault.meet .openFile before.kernel.faults).2 := by
  obtain ⟨served, tends, rfl⟩ := (Does.openFile ran).tends
  exact tends.faults

theorem openOnce_interrupts (spent : Fault.patience .openFile before.kernel.faults = 0)
    (ran : openOnce path before = (.error .interrupted, after)) :
    before.kernel.node? before.thread.location path = some (.failing .interrupted) := by
  have unarmed : before.kernel.Unarmed (Kernel.Call.openFile path).kind := Fault.unarmed_of_patience spent
  rw [openOnce, request_of_unarmed unarmed] at ran
  simp only [Op.kernel_bind, Op.thread_bind] at ran
  cases found : before.kernel.node? before.thread.location path with
  | none =>
      rw [found] at ran
      cases ran
  | some node =>
      rw [found] at ran
      cases node <;> cases ran
      rfl

theorem openAgain_tried {times : Nat} (enough : Fault.patience .openFile before.kernel.faults ≤ times)
    (ran : openAgain path times before = (answer, after)) : Tried path before answer after := by
  induction times generalizing before with
  | zero =>
      by_cases interrupted : answer = .error .interrupted
      · subst interrupted
        exact .endless ran (openOnce_interrupts (Nat.le_zero.mp enough) ran)
      · exact .ended ran interrupted
  | succ times ih =>
      obtain ⟨first, middle, trying, ranRest⟩ := Op.bind_ran.mp ran
      rcases first with errno | descriptor
      · dsimp only at ranRest
        split at ranRest
        case isTrue interrupted =>
          subst interrupted
          -- Every interruption costs patience, so the faults give up before the tries do.
          have less : Fault.patience .openFile middle.kernel.faults ≤ times := by
            have spends := @Fault.patience_meet .openFile before.kernel.faults
            rw [openOnce_faults trying]
            omega
          exact .again trying (ih less ranRest)
        case isFalse other =>
          cases ranRest
          exact .ended trying (by simpa using other)
      · cases ranRest
        exact .ended trying (by simp)

theorem openFile_tried (ran : openFile path before = (answer, after)) : Tried path before answer after :=
  openAgain_tried (Nat.le_refl _) ran

end Syscall

namespace Handle

variable {path : Path} {descriptor : Descriptor} {handle : Handle} {before after : Machine} {e : Error}

/-! ### Success -/

theorem isNetwork_true : isNetwork descriptor before = (.ok true, after) ↔
    ∃ found, Syscall.fstatfs descriptor before = (.ok true, found) ∧
      (Syscall.nstype descriptor found = (.ok Kernel.networkType, after) ∨
        Syscall.nstype descriptor found = (.error .notATerminal, after)) := by
  constructor
  · intro ran
    obtain ⟨answer, found, finding, ranRest⟩ := Op.bind_ran.mp ran
    rcases answer with errno | _ | _
    · cases ranRest
    · cases ranRest
    · refine ⟨found, finding, ?_⟩
      obtain ⟨type, told, telling, ranRest⟩ := Op.bind_ran.mp ranRest
      rcases type with errno | type <;> dsimp only at ranRest <;> split at ranRest
      · rename_i untyped
        cases ranRest
        exact .inr (untyped ▸ telling)
      · cases ranRest
      · cases ranRest
      · obtain ⟨same, rfl⟩ := Prod.mk.inj ranRest
        have network : type = Kernel.networkType := by simpa using same
        exact .inl (network ▸ telling)
  · rintro ⟨found, finding, telling | telling⟩
    · refine Op.bind_ran.mpr ⟨_, _, finding, Op.bind_ran.mpr ⟨_, _, telling, ?_⟩⟩
      simp [Op.pure_apply, Kernel.networkType]
    · refine Op.bind_ran.mpr ⟨_, _, finding, Op.bind_ran.mpr ⟨_, _, telling, ?_⟩⟩
      simp [Op.pure_apply]

/-- The calls that all succeed when a path leads to a network namespace, and the handle that they
lead to. -/
inductive Finds (path : Path) (before : Machine) : Handle → Prop where
  | mk (descriptor : Descriptor) (inode : UInt64) (opened found told identified : Machine)
      (opening : Syscall.openFile path before = (.ok descriptor, opened))
      (finding : Syscall.fstatfs descriptor opened = (.ok true, found))
      (telling : Syscall.nstype descriptor found = (.ok Kernel.networkType, told) ∨
        Syscall.nstype descriptor found = (.error .notATerminal, told))
      (identifying : Syscall.fstat descriptor told = (.ok inode, identified)) :
      Finds path before ⟨some descriptor, ⟨inode⟩, path⟩

theorem identify_ok_iff {id : NamespaceId} : identify path descriptor before = (.ok id, after) ↔
    ∃ told, isNetwork descriptor before = (.ok true, told) ∧
      Syscall.fstat descriptor told = (.ok id.inode, after) := by
  constructor
  · intro ran
    obtain ⟨answer, told, finding, ranRest⟩ := Op.bind_ran.mp ran
    rcases answer with errno | _ | _
    · cases ranRest
    · cases ranRest
    · obtain ⟨inode, identified, identifying, ranRest⟩ := Op.bind_ran.mp ranRest
      rcases inode with errno | inode <;> cases ranRest
      exact ⟨told, finding, identifying⟩
  · rintro ⟨told, finding, identifying⟩
    exact Op.bind_ran.mpr ⟨_, _, finding, Op.bind_ran.mpr ⟨_, _, identifying, rfl⟩⟩

theorem adopt_ok_iff : (∃ after, adopt path descriptor before = (.ok handle, after)) ↔
    ∃ id identified, identify path descriptor before = (.ok id, identified) ∧
      handle = ⟨some descriptor, id, path⟩ := by
  constructor
  · rintro ⟨after, ran⟩
    obtain ⟨answer, identified, identifying, ranRest⟩ := Op.bind_ran.mp ran
    rcases answer with e | id
    · obtain ⟨closed, last, -, ranRest⟩ := Op.bind_ran.mp ranRest
      cases ranRest
    · obtain ⟨⟨⟩, last, -, ranRest⟩ := Op.bind_ran.mp ranRest
      cases ranRest
      exact ⟨id, identified, identifying, rfl⟩
  · rintro ⟨id, identified, identifying, rfl⟩
    exact ⟨_, Op.bind_ran.mpr ⟨_, _, identifying, rfl⟩⟩

theorem openPath_ok_iff : (∃ after, openPath path before = (.ok handle, after)) ↔
    path.contains 0 = false ∧ Finds path before handle := by
  unfold openPath
  split
  case isTrue broken =>
    refine iff_of_false ?_ fun both => Bool.false_ne_true (both.1.symm.trans broken)
    rintro ⟨after, ran⟩
    cases ran
  case isFalse whole =>
    simp only [Bool.not_eq_true] at whole
    simp only [whole, true_and]
    constructor
    · rintro ⟨after, ran⟩
      obtain ⟨answer, opened, opening, ranRest⟩ := Op.bind_ran.mp ran
      rcases answer with errno | descriptor
      · cases ranRest
      · obtain ⟨id, identified, identifying, rfl⟩ := adopt_ok_iff.mp ⟨after, ranRest⟩
        obtain ⟨told, network, identifying⟩ := identify_ok_iff.mp identifying
        obtain ⟨found, finding, telling⟩ := isNetwork_true.mp network
        exact .mk descriptor id.inode opened found told identified opening finding telling identifying
    · intro finds
      obtain ⟨descriptor, inode, opened, found, told, identified, opening, finding, telling, identifying⟩ := finds
      have network := isNetwork_true.mpr ⟨found, finding, telling⟩
      have identity : identify path descriptor opened = (.ok ⟨inode⟩, identified) :=
        identify_ok_iff.mpr ⟨told, network, identifying⟩
      obtain ⟨after, adopting⟩ := adopt_ok_iff.mpr ⟨_, identified, identity, rfl⟩
      exact ⟨after, Op.bind_ran.mpr ⟨_, _, opening, adopting⟩⟩

/-! ### Failure -/

/-- Opening a file fails for want of permission. -/
def KeptOut (path : Path) (before : Machine) (errno : Errno) : Prop :=
  (errno = .notPermitted ∨ errno = .accessDenied) ∧
    ∃ after, Syscall.openFile path before = (.error errno, after)

/-- Once a file is open, it is not found to be a network namespace, or a call fails. -/
theorem adopt_error (ran : adopt path descriptor before = (.error e, after)) :
    e = .notFound path.display ∨ ∃ source, e = .io path source := by
  obtain ⟨answer, identified, identifying, ranRest⟩ := Op.bind_ran.mp ran
  rcases answer with failed | id
  · obtain ⟨closed, last, -, ranRest⟩ := Op.bind_ran.mp ranRest
    cases ranRest
    obtain ⟨network, told, -, ranRest⟩ := Op.bind_ran.mp identifying
    rcases network with errno | _ | _
    · cases ranRest
      exact .inr ⟨_, rfl⟩
    · cases ranRest
      exact .inl rfl
    · obtain ⟨inode, last, -, ranRest⟩ := Op.bind_ran.mp ranRest
      rcases inode with errno | inode <;> cases ranRest
      exact .inr ⟨_, rfl⟩
  · obtain ⟨⟨⟩, last, -, ranRest⟩ := Op.bind_ran.mp ranRest
    cases ranRest

theorem openFailure_cases (path : Path) (errno : Errno) :
    openFailure path errno = .notFound path.display ∨
      ((errno = .notPermitted ∨ errno = .accessDenied) ∧
        openFailure path errno = .permissionDenied ("open " ++ path.display ++ ": " ++ errno.message)) ∨
      ∃ source, openFailure path errno = .io path source := by
  unfold openFailure
  split
  · exact .inl rfl
  · split
    case isTrue forbidden => exact .inr (.inl ⟨forbidden, rfl⟩)
    case isFalse => exact .inr (.inr ⟨_, rfl⟩)

/-- A failure is one of three kinds, and it names the path. -/
theorem openPath_error (ran : openPath path before = (.error e, after)) :
    e = .notFound path.display ∨
      (path.contains 0 = false ∧ ∃ errno, KeptOut path before errno ∧
        e = .permissionDenied ("open " ++ path.display ++ ": " ++ errno.message)) ∨
      ∃ source, e = .io path source := by
  unfold openPath at ran
  split at ran
  · cases ran
    exact .inr (.inr ⟨_, rfl⟩)
  · rename_i whole
    obtain ⟨answer, opened, opening, ranRest⟩ := Op.bind_ran.mp ran
    rcases answer with errno | descriptor
    · obtain ⟨failed, -⟩ := Prod.mk.inj ranRest
      obtain rfl := Except.error.inj failed
      rcases openFailure_cases path errno with missing | ⟨forbidden, kept⟩ | other
      · exact .inl missing
      · exact .inr (.inl ⟨by simpa using whole, errno, ⟨forbidden, opened, opening⟩, kept⟩)
      · exact .inr (.inr other)
    · exact (adopt_error ranRest).imp_right .inr

theorem openPath_keptOut {errno : Errno} (whole : path.contains 0 = false) (kept : KeptOut path before errno) :
    ∃ after, openPath path before =
      (.error (.permissionDenied ("open " ++ path.display ++ ": " ++ errno.message)), after) := by
  obtain ⟨forbidden, after, opening⟩ := kept
  refine ⟨after, ?_⟩
  rw [openPath, if_neg (ne_true_of_eq_false whole)]
  refine Op.bind_ran.mpr ⟨_, _, opening, ?_⟩
  have present : errno ≠ .noEntry := by rcases forbidden with rfl | rfl <;> decide
  simp [openFailure, present, forbidden, Op.pure_apply]

theorem openPath_untouched (ran : openPath path before = (.error e, after)) : before.Untouched after := by
  rcases openPath_ran ran with ⟨_, -, quiet⟩ | ⟨_, _, _, -, made, -⟩
  · exact ⟨quiet.thread, quiet.descriptors, openPath_namespaces ran, (openPath_calls path).files ran⟩
  · cases made

/-! ### Everything that can come of it -/

theorem openPath_notFound_iff {id : String} :
    (∃ after, openPath path before = (.error (.notFound id), after)) ↔ id = path.display ∧ Missing path before := by
  rw [missing_iff]
  simp only [openPath_notFound]
  grind

theorem openPath_permissionDenied_iff {message : String} :
    (∃ after, openPath path before = (.error (.permissionDenied message), after)) ↔
      path.contains 0 = false ∧ ∃ errno, KeptOut path before errno ∧
        message = "open " ++ path.display ++ ": " ++ errno.message := by
  constructor
  · rintro ⟨after, ran⟩
    rcases openPath_error ran with missing | ⟨whole, errno, keeps, same⟩ | ⟨source, other⟩
    · cases missing
    · cases same
      exact ⟨whole, errno, keeps, rfl⟩
    · cases other
  · rintro ⟨whole, errno, keeps, rfl⟩
    exact openPath_keptOut whole keeps

/-- What is left is any other failure. -/
theorem openPath_io_iff : (∃ source after, openPath path before = (.error (.io path source), after)) ↔
    path.contains 0 = true ∨ (¬ ∃ handle, Finds path before handle) ∧ ¬ Missing path before ∧
      ¬ ∃ errno, KeptOut path before errno := by
  constructor
  · rintro ⟨source, after, ran⟩
    by_cases broken : path.contains 0 = true
    · exact .inl broken
    · have whole : path.contains 0 = false := by simpa using broken
      refine .inr ⟨?_, ?_, ?_⟩
      · rintro ⟨handle, finds⟩
        obtain ⟨last, found⟩ := openPath_ok_iff.mpr ⟨whole, finds⟩
        cases ran.symm.trans found
      · intro missing
        obtain ⟨last, missed⟩ := openPath_notFound_iff.mpr ⟨rfl, missing⟩
        cases ran.symm.trans missed
      · rintro ⟨errno, keeps⟩
        obtain ⟨last, kept⟩ := openPath_keptOut whole keeps
        cases ran.symm.trans kept
  · intro otherwise
    cases ran : openPath path before with
    | mk answer after =>
    rcases answer with e | handle
    · rcases openPath_error ran with rfl | ⟨whole, errno, keeps, rfl⟩ | ⟨source, rfl⟩
      · obtain ⟨-, missing⟩ := openPath_notFound_iff.mp ⟨after, ran⟩
        grind [Missing]
      · grind
      · exact ⟨source, after, rfl⟩
    · have found := openPath_ok_iff.mp ⟨after, ran⟩
      grind

/-- A handle has been made of the file at a path: it has the path and the inode of the file, it owns
the one descriptor that is new, and nothing else is different. -/
structure Acquired (path : Path) (before after : Machine) (handle : Handle) : Prop where
  named : handle.path = path
  owns : ∃ descriptor file, handle.descriptor? = some descriptor ∧
    before.kernel.node? before.thread.location path = some (.namespaceFile file) ∧
    handle.id.inode = before.kernel.inode file.target ∧
    descriptor ∉ before.kernel.opened ∧
    after.kernel.descriptors = before.kernel.descriptors ++ [(descriptor, .namespaceFile file)]
  thread : after.thread = before.thread
  namespaces : after.kernel.namespaces = before.kernel.namespaces
  files : after.kernel.files = before.kernel.files

theorem openPath_acquired (ran : openPath path before = (.ok handle, after)) :
    Acquired path before after handle := by
  obtain ⟨descriptor, file, node, owned, named, identity, makes⟩ := openPath_obtains ran
  exact ⟨named, ⟨descriptor, file, owned, node, identity, makes.not_opened, makes.works.descriptors⟩,
    makes.works.thread, openPath_namespaces ran, (openPath_calls path).files ran⟩

/-- What comes of opening a path.  A type of -1 is what a call returns that has failed, so it is a
failure and not a type. -/
theorem openPath_classified (path : Path) (before : Machine) :
    (∃ opening opened, Syscall.openFile path before = (opening, opened) ∧
      Syscall.Tried path before opening opened) ∧
    ∃ answer after, openPath path before = (answer, after) ∧
      (∀ handle, answer = .ok handle ↔ path.contains 0 = false ∧ Finds path before handle) ∧
      (∀ id, answer = .error (.notFound id) ↔ id = path.display ∧ Missing path before) ∧
      (∀ message, answer = .error (.permissionDenied message) ↔ path.contains 0 = false ∧
        ∃ errno, KeptOut path before errno ∧
          message = "open " ++ path.display ++ ": " ++ errno.message) ∧
      ((∃ source, answer = .error (.io path source)) ↔
        path.contains 0 = true ∨ (¬ ∃ handle, Finds path before handle) ∧ ¬ Missing path before ∧
          ¬ ∃ errno, KeptOut path before errno) ∧
      (∀ handle, answer = .ok handle → Acquired path before after handle) ∧
      ∀ e, answer = .error e → before.Untouched after := by
  refine ⟨⟨_, _, rfl, Syscall.openFile_tried rfl⟩, ?_⟩
  cases ran : openPath path before with
  | mk answer after =>
  have decided (other : Except Error Handle) :
      answer = other ↔ ∃ left, openPath path before = (other, left) := by
    rw [ran]
    exact ⟨fun same => ⟨after, by rw [same]⟩, fun ⟨left, same⟩ => (Prod.mk.inj same).1⟩
  refine ⟨answer, after, rfl, ?_, ?_, ?_, ?_, ?_, ?_⟩
  · exact fun handle => (decided _).trans openPath_ok_iff
  · exact fun id => (decided _).trans openPath_notFound_iff
  · exact fun message => (decided _).trans openPath_permissionDenied_iff
  · exact (exists_congr fun source => decided _).trans openPath_io_iff
  · rintro handle rfl
    exact openPath_acquired ran
  · rintro e rfl
    exact openPath_untouched ran

/-- A machine with one namespace file, whose type is -1. -/
def negativeType : Machine :=
  { Machine.host with
    kernel := { Machine.host.kernel with
      files := [([47, 120], .namespaceFile { target := .foreign 1, type := -1 })] } }

/-- Not every namespace file of another type is not found. -/
theorem openPath_negative_type : ¬ ∀ path before descriptor type opened found told,
    Syscall.openFile path before = (.ok descriptor, opened) →
    Syscall.fstatfs descriptor opened = (.ok true, found) →
    Syscall.nstype descriptor found = (.ok type, told) → type ≠ Kernel.networkType →
    ∃ id after, openPath path before = (.error (.notFound id), after) := by
  intro classified
  obtain ⟨id, after, ran⟩ := classified [47, 120] negativeType ⟨1⟩ (-1) _ _ _ rfl rfl rfl (by decide)
  have failed : (openPath [47, 120] negativeType).1 = .error (.io [47, 120] (.os ⟨0⟩)) := rfl
  rw [ran] at failed
  cases failed

end Handle

end NetSwitch
