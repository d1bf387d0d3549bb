import NetSwitch.Proofs.Device
import NetSwitch.Proofs.Handle
import NetSwitch.Switch.Outcome

/-! Who owns the descriptors that are open.

Accounts are kept for a list of handles: apart from descriptors that have nothing to do with
them, exactly those are open that the handles own.  Each operation changes the list by the
handles that it makes or gives up.
-/

namespace NetSwitch

open Kernel (Descriptor Object)

instance : Owns Handle :=
  ⟨fun handle => [handle]⟩

instance [Owns α] : Owns (Except ε α) where
  handles
    | .ok value => Owns.handles value
    | .error _ => []

instance [Owns α] : Owns (Outcome π ε α) where
  handles
    | .returned value => Owns.handles value
    | .failed _ => []
    | .unwound _ => []

/-- The descriptors of the handles that have not been closed. -/
def Handle.descriptors (handles : List Handle) : List Descriptor :=
  handles.filterMap (·.descriptor?)

/-- A kernel that goes on from another and in which exactly the descriptors are open that
`foreign` lists or the handles own. -/
structure Kernel.Accounts (origin : Kernel) (foreign : List Descriptor) (handles : List Handle)
    (kernel : Kernel) : Prop where
  grown : origin.Extends kernel
  opened : kernel.opened.Perm (foreign ++ Handle.descriptors handles)

namespace Kernel.Accounts

variable {origin : Kernel} {foreign : List Descriptor} {handles others : List Handle}
variable {before after : Machine} {handle : Handle} {descriptor : Descriptor} {object : Object}

theorem refl (kernel : Kernel) : Accounts kernel kernel.opened [] kernel :=
  ⟨.refl kernel, by simp [Handle.descriptors]⟩

theorem perm {kernel : Kernel} (accounts : Accounts origin foreign handles kernel)
    (same : handles.Perm others) : Accounts origin foreign others kernel :=
  ⟨accounts.grown, accounts.opened.trans ((same.filterMap _).append_left foreign)⟩

/-- Accounts can be kept from any moment on. -/
theorem rebase {kernel : Kernel} (accounts : Accounts origin foreign handles kernel) :
    Accounts kernel foreign handles kernel :=
  ⟨.refl kernel, accounts.opened⟩

theorem backed {kernel : Kernel} (accounts : Accounts origin foreign handles kernel)
    (member : handle ∈ handles) : handle.Backed kernel := by
  intro descriptor owned
  refine accounts.opened.mem_iff.mpr (List.mem_append_right _ ?_)
  exact List.mem_filterMap.mpr ⟨handle, member, owned⟩

theorem of_tables {kernel next : Kernel} (accounts : Accounts origin foreign handles kernel)
    (descriptors : next.descriptors = kernel.descriptors) (extension : kernel.Extends next) :
    Accounts origin foreign handles next := by
  refine ⟨accounts.grown.trans extension, ?_⟩
  rw [Kernel.opened, descriptors]
  exact accounts.opened

theorem of_quiet (accounts : Accounts origin foreign handles before.kernel)
    (quiet : before.Quiet after) : Accounts origin foreign handles after.kernel :=
  accounts.of_tables quiet.descriptors quiet.kernel

theorem of_makes (accounts : Accounts origin foreign handles before.kernel)
    (makes : before.Makes after descriptor object) (owns : handle.descriptor? = some descriptor) :
    Accounts origin foreign (handle :: handles) after.kernel := by
  refine ⟨accounts.grown.trans makes.works.kernel, ?_⟩
  have joined : Handle.descriptors (handle :: handles) = descriptor :: Handle.descriptors handles :=
    List.filterMap_cons_some owns
  rw [makes.opened, joined]
  exact (accounts.opened.append_right _).trans ((List.perm_append_singleton ..).trans
    List.perm_middle.symm)

theorem of_without (accounts : Accounts origin foreign (handle :: handles) before.kernel)
    (works : before.Works after (handle.without before.kernel.descriptors)) :
    Accounts origin foreign handles after.kernel := by
  cases owned : handle.descriptor? with
  | none =>
      rw [Handle.without_of_closed owned] at works
      have gone : Handle.descriptors (handle :: handles) = Handle.descriptors handles :=
        List.filterMap_cons_none owned
      refine Kernel.Accounts.of_quiet ⟨accounts.grown, ?_⟩ works
      rw [← gone]
      exact accounts.opened
  | some descriptor =>
      rw [Handle.without_of_open owned] at works
      refine ⟨accounts.grown.trans works.kernel, ?_⟩
      have joined : Handle.descriptors (handle :: handles) =
          descriptor :: Handle.descriptors handles := List.filterMap_cons_some owned
      have opened : before.kernel.opened.Perm (descriptor :: (foreign ++ Handle.descriptors handles)) := by
        refine accounts.opened.trans ?_
        rw [joined]
        exact List.perm_middle
      have distinct := (opened.nodup_iff.mp before.kernel.opened_nodup)
      have left : after.kernel.opened = before.kernel.opened.filter (· ≠ descriptor) := by
        simp only [Kernel.opened, works.descriptors, List.filter_map]
        rfl
      rw [left]
      refine (opened.filter _).trans ?_
      rw [List.filter_cons_of_neg (by simp), List.filter_eq_self.mpr]
      intro other member
      refine decide_eq_true ?_
      intro same
      subst same
      exact (List.nodup_cons.mp distinct).1 member

end Kernel.Accounts

/-! ### Handles -/

namespace Handle

variable {origin : Kernel} {foreign : List Descriptor} {handles : List Handle}
variable {before after : Machine} {handle : Handle} {path : Path}

theorem openPath_accounts {answer : Except Error Handle}
    (accounts : origin.Accounts foreign handles before.kernel)
    (ran : openPath path before = (answer, after)) :
    origin.Accounts foreign (Owns.handles answer ++ handles) after.kernel := by
  rcases openPath_ran ran with ⟨e, rfl, quiet⟩ | ⟨made, descriptor, file, -, rfl, owns, -, makes⟩
  · exact accounts.of_quiet quiet
  · exact accounts.of_makes makes owns

theorem duplicate_accounts {answer : Except Error Handle}
    (accounts : origin.Accounts foreign handles before.kernel) (backed : handle.Backed before.kernel)
    (ran : handle.duplicate before = (answer, after)) :
    origin.Accounts foreign (Owns.handles answer ++ handles) after.kernel := by
  rcases duplicate_ran backed ran with
    ⟨e, rfl, quiet⟩ | ⟨descriptor, copy, object, -, -, rfl, makes⟩
  · exact accounts.of_quiet quiet
  · exact accounts.of_makes makes rfl

theorem close_accounts {answer : Except Error Unit}
    (accounts : origin.Accounts foreign (handle :: handles) before.kernel)
    (ran : handle.close before = (answer, after)) :
    origin.Accounts foreign handles after.kernel :=
  accounts.of_without (close_works (accounts.backed (List.mem_cons_self ..)) ran)

theorem drop_accounts (accounts : origin.Accounts foreign (handle :: handles) before.kernel)
    (ran : handle.drop before = ((), after)) : origin.Accounts foreign handles after.kernel :=
  accounts.of_without (drop_works (accounts.backed (List.mem_cons_self ..)) ran)

theorem dropAll_accounts {dropped : List Handle}
    (accounts : origin.Accounts foreign (dropped ++ handles) before.kernel)
    (ran : dropAll dropped before = ((), after)) : origin.Accounts foreign handles after.kernel := by
  induction dropped generalizing before with
  | nil =>
      cases ran
      exact accounts
  | cons first rest ih =>
      obtain ⟨⟨⟩, middle, ranFirst, ranRest⟩ := Op.bind_ran.mp ran
      exact ih (drop_accounts accounts ranFirst) ranRest

end Handle

theorem discard_accounts [Owns α] {origin : Kernel} {foreign : List Descriptor}
    {handles : List Handle} {value : α} {before after : Machine}
    (accounts : origin.Accounts foreign (Owns.handles value ++ handles) before.kernel)
    (ran : discard value before = ((), after)) : origin.Accounts foreign handles after.kernel :=
  Handle.dropAll_accounts accounts ran

end NetSwitch
