import NetSwitch.Proofs.Blind

/-! Paths that lead to no network namespace.

Of all that can go wrong when a path is opened, this alone is reported as something that was not
found.
-/

namespace NetSwitch.Handle

open Kernel (Descriptor)

variable {path : Path} {descriptor : Descriptor} {before other after : Machine}

/-- How opening a path turns out to find no network namespace: nothing is there, or what is there
is something else, and is closed again. -/
inductive Misses (path : Path) (before after : Machine) : Prop where
  | absent (opening : Syscall.openFile path before = (.error .noEntry, after))
  | plain (descriptor : Descriptor) (opened told : Machine) (closed : Except Errno Unit)
      (opening : Syscall.openFile path before = (.ok descriptor, opened))
      (telling : Syscall.fstatfs descriptor opened = (.ok false, told))
      (closing : Syscall.close descriptor told = (closed, after))
  | other (descriptor : Descriptor) (type : Int) (opened found told : Machine)
      (closed : Except Errno Unit)
      (opening : Syscall.openFile path before = (.ok descriptor, opened))
      (finding : Syscall.fstatfs descriptor opened = (.ok true, found))
      (telling : Syscall.nstype descriptor found = (.ok type, told))
      (differs : type ≠ -1 ∧ type ≠ Kernel.networkType)
      (closing : Syscall.close descriptor told = (closed, after))

/-- A file is no network namespace if it is no namespace file, or says that it is of another
type. -/
theorem isNetwork_false : isNetwork descriptor before = (.ok false, after) ↔
    Syscall.fstatfs descriptor before = (.ok false, after) ∨
      ∃ type found, Syscall.fstatfs descriptor before = (.ok true, found) ∧
        Syscall.nstype descriptor found = (.ok type, after) ∧
        type ≠ -1 ∧ type ≠ Kernel.networkType := by
  constructor
  · intro ran
    obtain ⟨answer, found, finding, ranRest⟩ := Op.bind_ran.mp ran
    rcases answer with errno | _ | _
    · cases ranRest
    · cases ranRest
      exact .inl finding
    · obtain ⟨type, told, telling, ranRest⟩ := Op.bind_ran.mp ranRest
      rcases type with errno | type <;> dsimp only at ranRest <;> split at ranRest
      · cases ranRest
      · cases ranRest
      · cases ranRest
      · rename_i answered
        obtain ⟨same, rfl⟩ := Prod.mk.inj ranRest
        exact .inr ⟨type, found, finding, telling, answered, by simpa using same⟩
  · rintro (telling | ⟨type, found, finding, telling, answered, differs⟩)
    · exact Op.bind_ran.mpr ⟨_, _, telling, rfl⟩
    · refine Op.bind_ran.mpr ⟨_, _, finding, Op.bind_ran.mpr ⟨_, _, telling, ?_⟩⟩
      simp [answered, differs, Op.pure_apply]

theorem identify_notFound {id : String} :
    identify path descriptor before = (.error (.notFound id), after) ↔
      id = path.display ∧ isNetwork descriptor before = (.ok false, after) := by
  constructor
  · intro ran
    obtain ⟨answer, found, finding, ranRest⟩ := Op.bind_ran.mp ran
    rcases answer with errno | _ | _
    · cases ranRest
    · cases ranRest
      exact ⟨rfl, finding⟩
    · obtain ⟨inode, last, -, ranRest⟩ := Op.bind_ran.mp ranRest
      rcases inode with errno | inode <;> cases ranRest
  · rintro ⟨rfl, finding⟩
    exact Op.bind_ran.mpr ⟨_, _, finding, rfl⟩

theorem adopt_notFound {id : String} :
    adopt path descriptor before = (.error (.notFound id), after) ↔
      id = path.display ∧ ∃ told closed, isNetwork descriptor before = (.ok false, told) ∧
        Syscall.close descriptor told = (closed, after) := by
  constructor
  · intro ran
    obtain ⟨answer, told, telling, ranRest⟩ := Op.bind_ran.mp ran
    rcases answer with e | found
    · obtain ⟨closed, last, closing, ranRest⟩ := Op.bind_ran.mp ranRest
      cases ranRest
      obtain ⟨rfl, finding⟩ := identify_notFound.mp telling
      exact ⟨rfl, told, closed, finding, closing⟩
    · obtain ⟨⟨⟩, last, -, ranRest⟩ := Op.bind_ran.mp ranRest
      cases ranRest
  · rintro ⟨rfl, told, closed, finding, closing⟩
    refine Op.bind_ran.mpr ⟨_, _, identify_notFound.mpr ⟨rfl, finding⟩, ?_⟩
    exact Op.bind_ran.mpr ⟨_, _, closing, rfl⟩

theorem openFailure_notFound {errno : Errno} {id : String} :
    openFailure path errno = .notFound id ↔ errno = .noEntry ∧ id = path.display := by
  unfold openFailure
  split
  · simp_all [eq_comm]
  · split <;> simp_all

/-- Opening a path reports that it is not there exactly if it finds no network namespace, and it
names the path. -/
theorem openPath_notFound {id : String} :
    openPath path before = (.error (.notFound id), after) ↔
      path.contains 0 = false ∧ id = path.display ∧ Misses path before after := by
  unfold openPath
  split
  · rename_i broken
    refine iff_of_false (fun ran => ?_) fun ⟨whole, _⟩ => ?_
    · cases ran
    · cases broken.symm.trans whole
  rename_i whole
  simp only [whole, true_and]
  constructor
  · intro ran
    obtain ⟨answer, opened, opening, ranRest⟩ := Op.bind_ran.mp ran
    rcases answer with errno | descriptor
    · obtain ⟨same, rfl⟩ := Prod.mk.inj ranRest
      obtain ⟨rfl, rfl⟩ := openFailure_notFound.mp (Except.error.inj same)
      exact ⟨rfl, .absent opening⟩
    · obtain ⟨rfl, told, closed, finding, closing⟩ := adopt_notFound.mp ranRest
      rcases isNetwork_false.mp finding with telling | ⟨type, found, telling, typing, differs⟩
      · exact ⟨rfl, .plain descriptor opened told closed opening telling closing⟩
      · exact ⟨rfl, .other descriptor type opened found told closed opening telling typing differs
          closing⟩
  · rintro ⟨rfl, misses⟩
    cases misses with
    | absent opening =>
        refine Op.bind_ran.mpr ⟨_, _, opening, ?_⟩
        simp [openFailure, Op.pure_apply]
    | plain descriptor opened told closed opening telling closing =>
        refine Op.bind_ran.mpr ⟨_, _, opening, adopt_notFound.mpr ⟨rfl, told, closed, ?_, closing⟩⟩
        exact isNetwork_false.mpr (.inl telling)
    | other descriptor type opened found told closed opening finding telling differs closing =>
        refine Op.bind_ran.mpr ⟨_, _, opening, adopt_notFound.mpr ⟨rfl, told, closed, ?_, closing⟩⟩
        exact isNetwork_false.mpr (.inr ⟨type, found, finding, telling, differs⟩)

/-- No network namespace is found when a path is opened.  A path with a zero byte in it is not looked
for. -/
def Missing (path : Path) (machine : Machine) : Prop :=
  path.contains 0 = false ∧ ∃ after, Misses path machine after

theorem missing_iff : Missing path before ↔
    ∃ after, openPath path before = (.error (.notFound path.display), after) := by
  constructor
  · intro missing
    obtain ⟨whole, after, misses⟩ := missing
    exact ⟨after, openPath_notFound.mpr ⟨whole, rfl, misses⟩⟩
  · intro opens
    obtain ⟨after, opening⟩ := opens
    obtain ⟨whole, -, misses⟩ := openPath_notFound.mp opening
    exact ⟨whole, after, misses⟩

theorem Missing.of_alike (missing : Missing path before) (alike : before.Alike other) :
    Missing path other := by
  obtain ⟨after, opening⟩ := missing_iff.mp missing
  obtain ⟨left, instead, -⟩ := (openPath_blind path).ran alike opening
  exact missing_iff.mpr ⟨left, instead⟩

end NetSwitch.Handle
