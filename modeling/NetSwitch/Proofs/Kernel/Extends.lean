import NetSwitch.Proofs.Kernel.Ledger

/-! What any work leaves as it was: an open descriptor goes on referring to the same
object, and the trace only grows, by entries that its ledger accounts for. -/

namespace NetSwitch.Kernel

variable {kernel before middle after : Kernel} {descriptor : Descriptor} {object : Object}

/-- The descriptors that are open, in the order in which they were made. -/
def opened (kernel : Kernel) : List Descriptor :=
  kernel.descriptors.map (·.1)

def ledger (kernel : Kernel) : Ledger :=
  ⟨kernel.opened, kernel.made⟩

theorem opened_nodup (kernel : Kernel) : kernel.opened.Nodup := by
  refine List.pairwise_map.mpr (kernel.numbered.ascending.imp fun smaller same => ?_)
  rw [same] at smaller
  exact Nat.lt_irrefl _ smaller

theorem opened_bounded (isOpen : descriptor ∈ kernel.opened) : descriptor.number ≤ kernel.made := by
  obtain ⟨entry, member, rfl⟩ := List.mem_map.mp isOpen
  exact kernel.numbered.bounded entry member

theorem ledger_bounded (kernel : Kernel) : kernel.ledger.Bounded :=
  fun _ isOpen => opened_bounded isOpen

theorem object?_isSome : (kernel.object? descriptor).isSome ↔ descriptor ∈ kernel.opened := by
  simp only [object?, opened, List.lookup_isSome_iff, List.mem_map, beq_iff_eq]
  exact ⟨fun ⟨entry, member, same⟩ => ⟨entry, member, same.symm⟩,
    fun ⟨entry, member, same⟩ => ⟨entry, member, same.symm⟩⟩

theorem opened_of_object? (found : kernel.object? descriptor = some object) :
    descriptor ∈ kernel.opened :=
  object?_isSome.mp (by rw [found]; rfl)

theorem opened_of_network? {location : String} (found : kernel.network? descriptor = some location) :
    descriptor ∈ kernel.opened := by
  unfold network? at found
  split at found
  · rename_i object
    exact opened_of_object? object
  · contradiction

theorem lookup_append_of_not_mem {entries rest : List (Descriptor × Object)}
    (absent : descriptor ∉ entries.map (·.1)) :
    (entries ++ rest).lookup descriptor = rest.lookup descriptor := by
  rw [List.lookup_append, List.lookup_eq_none_iff.mpr, Option.none_or]
  intro entry member
  simp only [bne_iff_ne]
  intro same
  subst same
  exact absent (List.mem_map_of_mem member)

theorem lookup_append_of_mem {entries rest : List (Descriptor × Object)}
    (present : descriptor ∈ entries.map (·.1)) :
    (entries ++ rest).lookup descriptor = entries.lookup descriptor := by
  have found : (entries.lookup descriptor).isSome := by
    rw [List.lookup_isSome_iff]
    obtain ⟨entry, member, rfl⟩ := List.mem_map.mp present
    exact ⟨entry, member, by simp⟩
  rw [List.lookup_append]
  exact Option.or_of_isSome found

theorem lookup_filter_of_kept {entries : List (Descriptor × Object)} (keep : Descriptor → Bool)
    (kept : keep descriptor = true) :
    (entries.filter (keep ·.1)).lookup descriptor = entries.lookup descriptor := by
  induction entries with
  | nil => rfl
  | cons entry rest ih =>
      obtain ⟨first, object⟩ := entry
      by_cases same : descriptor = first
      · subst first
        simp [kept]
      · have differs : (descriptor == first) = false := by simpa using same
        by_cases stays : keep first = true
        · simp [List.filter_cons_of_pos, stays, List.lookup_cons, differs, ih]
        · simp [List.filter_cons_of_neg, stays, List.lookup_cons, differs, ih]

theorem lookup_filter_other {entries : List (Descriptor × Object)} {closed : Descriptor}
    (other : descriptor ≠ closed) :
    (entries.filter (·.1 ≠ closed)).lookup descriptor = entries.lookup descriptor :=
  lookup_filter_of_kept (· ≠ closed) (decide_eq_true other)

/-- A kernel that goes on from another. -/
structure Extends (before after : Kernel) : Prop where
  made : before.made ≤ after.made
  objects : ∀ descriptor ∈ after.opened, descriptor.number ≤ before.made →
    after.object? descriptor = before.object? descriptor
  entries : ∃ entries, after.trace = before.trace ++ entries ∧
    before.ledger.replay entries = some after.ledger

namespace Extends

theorem refl (kernel : Kernel) : Extends kernel kernel :=
  ⟨Nat.le_refl _, fun _ _ _ => rfl, [], by simp, rfl⟩

theorem trans (first : Extends before middle) (second : Extends middle after) :
    Extends before after where
  made := Nat.le_trans first.made second.made
  objects descriptor isOpen older := by
    have same := second.objects descriptor isOpen (Nat.le_trans older first.made)
    have earlier : descriptor ∈ middle.opened := by
      rw [← object?_isSome, ← same, object?_isSome]
      exact isOpen
    exact same.trans (first.objects descriptor earlier older)
  entries := by
    obtain ⟨entries, trace, replayed⟩ := first.entries
    obtain ⟨rest, traceRest, replayedRest⟩ := second.entries
    refine ⟨entries ++ rest, ?_, Ledger.replay_trans replayed replayedRest⟩
    rw [traceRest, trace, List.append_assoc]

/-- Only the tables of descriptors and the trace matter. -/
theorem of_eq (descriptors : after.descriptors = before.descriptors)
    (made : after.made = before.made) (trace : after.trace = before.trace) :
    Extends before after where
  made := Nat.le_of_eq made.symm
  objects descriptor _ _ := by rw [object?, descriptors, object?]
  entries := ⟨[], by rw [trace, List.append_nil], by
    simp only [Ledger.replay, ledger, opened, descriptors, made]⟩

theorem object?_of_opened (extension : Extends before after) (earlier : descriptor ∈ before.opened)
    (isOpen : descriptor ∈ after.opened) :
    after.object? descriptor = before.object? descriptor :=
  extension.objects descriptor isOpen (opened_bounded earlier)

theorem network?_of_opened (extension : Extends before after) (earlier : descriptor ∈ before.opened)
    (isOpen : descriptor ∈ after.opened) :
    after.network? descriptor = before.network? descriptor := by
  rw [network?, network?, extension.object?_of_opened earlier isOpen]

section Calls

variable {call : Call} {report : Report}

theorem of_quiet (descriptors : after.descriptors = before.descriptors)
    (made : after.made = before.made) (trace : after.trace = before.trace ++ [⟨call, report⟩])
    (allowed : ∀ descriptor ∈ call.descriptor?, descriptor ∈ before.opened)
    (notClosing : ∀ descriptor, call ≠ .close descriptor)
    (silent : ∀ descriptor, report ≠ .made descriptor) : Extends before after where
  made := Nat.le_of_eq made.symm
  objects descriptor _ _ := by rw [object?, descriptors, object?]
  entries := by
    refine ⟨[⟨call, report⟩], trace, ?_⟩
    have same : after.ledger = before.ledger := by
      simp only [ledger, opened, descriptors, made]
    have stepped : before.ledger.step ⟨call, report⟩ = before.ledger.enter ⟨call, report⟩ :=
      if_pos allowed
    rw [Ledger.replay_singleton, same, stepped, Ledger.enter_quiet notClosing silent]

theorem of_made (descriptors : after.descriptors =
      before.descriptors ++ [(⟨before.made + 1⟩, object)])
    (made : after.made = before.made + 1)
    (trace : after.trace = before.trace ++ [⟨call, .made ⟨before.made + 1⟩⟩])
    (allowed : ∀ descriptor ∈ call.descriptor?, descriptor ∈ before.opened)
    (notClosing : ∀ descriptor, call ≠ .close descriptor) : Extends before after where
  made := by omega
  objects descriptor isOpen older := by
    rw [object?, descriptors, object?]
    refine lookup_append_of_mem ?_
    rw [opened, descriptors, List.map_append, List.mem_append] at isOpen
    refine isOpen.resolve_right fun fresh => ?_
    rw [List.mem_singleton.mp fresh] at older
    exact Nat.not_succ_le_self _ older
  entries := by
    refine ⟨_, trace, ?_⟩
    have stepped : before.ledger.step ⟨call, .made ⟨before.made + 1⟩⟩ =
        before.ledger.enter ⟨call, .made ⟨before.made + 1⟩⟩ := if_pos allowed
    rw [Ledger.replay_singleton, stepped]
    refine (Ledger.enter_made notClosing).trans ?_
    simp only [ledger, opened, descriptors, made, List.map_append, List.map_cons, List.map_nil]

theorem of_closed (isOpen : descriptor ∈ before.opened)
    (descriptors : after.descriptors = before.descriptors.filter (·.1 ≠ descriptor))
    (made : after.made = before.made)
    (trace : after.trace = before.trace ++ [⟨.close descriptor, report⟩])
    (silent : ∀ other, report ≠ .made other) : Extends before after where
  made := Nat.le_of_eq made.symm
  objects other stillOpen _ := by
    rw [object?, descriptors, object?]
    refine lookup_filter_other ?_
    intro same
    subst same
    rw [opened, descriptors, List.mem_map] at stillOpen
    obtain ⟨entry, member, rfl⟩ := stillOpen
    simpa using (List.mem_filter.mp member).2
  entries := by
    refine ⟨_, trace, ?_⟩
    have filtered : after.opened = before.opened.filter (· ≠ descriptor) := by
      simp only [opened, descriptors, List.filter_map]
      rfl
    have stepped : before.ledger.step ⟨.close descriptor, report⟩ =
        before.ledger.enter ⟨.close descriptor, report⟩ := by
      refine if_pos fun other named => ?_
      rw [← Option.some.inj named]
      exact isOpen
    rw [Ledger.replay_singleton, stepped, Ledger.enter_closed silent]
    simp only [ledger, filtered, made]

end Calls

end Extends

end NetSwitch.Kernel
