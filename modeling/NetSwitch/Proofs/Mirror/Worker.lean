import NetSwitch.Proofs.Mirror.Kernel

/-! The mirrors that the runs of workers are.

A worker that is waited for has the descriptors that its parent would have.  One with a handle of
its own has one more, of the same object as its parent's, and all that it opens is numbered after
that.
-/

namespace NetSwitch

open Kernel (Descriptor Entry Object)

/-- The calls of a worker that is waited for, beside those that the thread itself makes. -/
def Mirror.waited (start : List Entry) : Mirror where
  limit := 0
  gap := 0
  beside := []
  Traces trace trace' :=
    ∃ calls, trace = start ++ calls ∧ trace' = start ++ ⟨.spawn, .ok⟩ :: calls
  goesOn := by
    rintro _ _ ⟨calls, rfl, rfl⟩ entry
    rw [Renumbering.entry_of_gap rfl]
    exact ⟨calls ++ [entry], by simp, by simp⟩

theorem Mirror.waited_plain (start : List Entry) : (Mirror.waited start).Plain :=
  ⟨rfl, rfl, rfl⟩

theorem Renumbering.closes_entry {renumbering : Renumbering} {descriptor : Descriptor}
    (skipped : renumbering.skips descriptor = true) (entry : Entry) :
    (renumbering.entry entry).closes descriptor = false := by
  obtain ⟨call, report⟩ := entry
  cases call
  case close closed =>
    simp only [Renumbering.entry, Renumbering.call, Entry.closes, Kernel.Call.close.injEq,
      decide_eq_false_iff_not]
    rintro rfl
    rw [Renumbering.skips_descriptor] at skipped
    cases skipped
  all_goals rfl

/-- The run of a worker with a handle of its own, of which it does not close the descriptor. -/
def Mirror.detached (made : Nat) (object : Object) (start : List Entry) : Mirror where
  limit := made
  gap := 1
  beside := [(⟨made + 1⟩, object)]
  Traces _ trace' := ∃ calls, trace' = start ++ calls ∧ ∀ entry ∈ calls, entry.closes ⟨made + 1⟩ = false
  goesOn := by
    rintro _ _ ⟨calls, rfl, others⟩ entry
    refine ⟨_, List.append_assoc .., fun other member => ?_⟩
    rcases List.mem_append.mp member with earlier | last
    · exact others other earlier
    · rw [List.mem_singleton.mp last]
      exact Renumbering.closes_entry (by simp [Renumbering.skips]) entry

theorem Mirror.detached_skips (made : Nat) (object : Object) (start : List Entry) (descriptor : Descriptor) :
    (Mirror.detached made object start).skips descriptor = decide (descriptor.number = made + 1) := by
  simp only [Renumbering.skips, Mirror.detached]
  grind

theorem Mirror.Kernels.detached (kernel : Kernel) (object : Object) (entries : List Entry) :
    (Mirror.detached kernel.made object (kernel.trace ++ entries)).Kernels kernel
      { (kernel.allocate object).2 with trace := kernel.trace ++ entries } := by
  have old (opening : Descriptor × Object) (member : opening ∈ kernel.descriptors) :
      opening.1.number ≠ kernel.made + 1 :=
    Nat.ne_of_lt (Nat.lt_succ_of_le (kernel.numbered.bounded opening member))
  refine ⟨rfl, rfl, rfl, Nat.le_refl _, rfl, ?_, ?_, ⟨[], by simp, by simp⟩⟩
  · have kept : kernel.descriptors.map (Mirror.detached kernel.made object (kernel.trace ++ entries)).opening =
        kernel.descriptors := by
      refine (List.map_congr_left fun opening member => ?_).trans (List.map_id _)
      rw [Renumbering.opening, Renumbering.descriptor_of_le (kernel.numbered.bounded opening member), id]
    simp only [Kernel.allocate, Mirror.detached_skips, List.filter_append, kept]
    rw [List.filter_eq_self.mpr fun opening member => by simp [old opening member]]
    simp
  · simp only [Kernel.allocate, Mirror.detached_skips, List.filter_append]
    rw [List.filter_eq_nil_iff.mpr fun opening member => by simp [old opening member]]
    simp [Mirror.detached]

end NetSwitch
