import NetSwitch.Proofs.Scenario.Registry

/-! What becomes of the slots of a registry.

A slot is known by its key, and no key is used twice.  `Carries` says where the slots come from that
are there afterwards, and `Honours` what is left of those that are lent.
-/

namespace NetSwitch.Scenario.Registry

variable {registry before middle after : Registry} {slot other : Slot} {key : Nat}
variable {name : String} {handle : Handle} {change : Slot → Slot} {added more : List Handle}

/-- A key belongs to one slot. -/
theorem slot_unique (member : slot ∈ registry.slots) (also : other ∈ registry.slots)
    (same : slot.key = other.key) : slot = other := by
  have one := (slots_perm registry.numbered member).mem_iff.mp also
  refine (List.mem_cons.mp one).elim Eq.symm fun apart => ?_
  exact absurd same.symm (of_decide_eq_true (List.mem_filter.mp apart).2)

theorem changeAt_of_key (here : slot.key = key) :
    changeAt key change slot = { change slot with key } :=
  if_pos here

theorem changeAt_of_other (apart : slot.key ≠ key) : changeAt key change slot = slot :=
  if_neg apart

theorem changeAt_handle (kept : ∀ slot, (change slot).handle = slot.handle) :
    (changeAt key change slot).handle = slot.handle := by
  by_cases here : slot.key = key
  · rw [changeAt_of_key here]
    exact kept slot
  · rw [changeAt_of_other here]

theorem mem_update :
    slot ∈ (registry.update key change).slots ↔ ∃ old ∈ registry.slots, changeAt key change old = slot :=
  List.mem_map

theorem mem_remove : slot ∈ (registry.remove key).slots ↔ slot ∈ registry.slots ∧ slot.key ≠ key := by
  simp only [remove, List.mem_filter, decide_eq_true_eq]

theorem mem_add : slot ∈ (registry.add name handle).slots ↔
    slot ∈ registry.slots ∨ slot = { key := registry.nextKey, name := some name, handle } := by
  simp only [add, List.mem_append, List.mem_singleton]

/-! ### Where slots come from -/

/-- Every slot was there before with the handle that it has, or is new and has one of the handles
that were added. -/
structure Carries (before after : Registry) (added : List Handle) : Prop where
  keys : before.nextKey ≤ after.nextKey
  slots : ∀ slot ∈ after.slots,
    (∃ earlier ∈ before.slots, earlier.key = slot.key ∧ slot.handle = earlier.handle) ∨
      before.nextKey ≤ slot.key ∧ slot.handle ∈ added

namespace Carries

theorem refl (registry : Registry) : registry.Carries registry [] :=
  ⟨Nat.le_refl _, fun slot member => .inl ⟨slot, member, rfl, rfl⟩⟩

theorem of_eq (same : after = before) : before.Carries after [] :=
  same ▸ refl before

theorem trans (first : before.Carries middle added) (second : middle.Carries after more) :
    before.Carries after (added ++ more) where
  keys := Nat.le_trans first.keys second.keys
  slots slot member := by
    rcases second.slots slot member with ⟨between, there, sameKey, same⟩ | ⟨fresh, given⟩
    · rw [← sameKey, same]
      exact (first.slots between there).imp_right (.imp_right (List.mem_append_left more))
    · exact .inr ⟨Nat.le_trans first.keys fresh, List.mem_append_right added given⟩

theorem update (kept : ∀ slot, (change slot).handle = slot.handle) :
    registry.Carries (registry.update key change) [] where
  keys := Nat.le_refl _
  slots slot member := by
    obtain ⟨old, there, rfl⟩ := mem_update.mp member
    exact .inl ⟨old, there, (changeAt_key old).symm, changeAt_handle kept⟩

theorem remove : registry.Carries (registry.remove key) [] where
  keys := Nat.le_refl _
  slots slot member := .inl ⟨slot, (mem_remove.mp member).1, rfl, rfl⟩

theorem add : registry.Carries (registry.add name handle) [handle] where
  keys := Nat.le_succ _
  slots slot member := by
    rcases mem_add.mp member with there | rfl
    · exact .inl ⟨slot, there, rfl, rfl⟩
    · exact .inr ⟨Nat.le_refl _, List.mem_singleton_self _⟩

theorem place : registry.Carries (registry.place name handle).2 [handle] := by
  unfold Registry.place
  cases registry.slot? name with
  | none => exact add
  | some old =>
      dsimp only
      split
      · exact remove.trans add
      · have unnamed : registry.Carries (registry.update old.key fun slot => { slot with name := none })
            [] := update fun _ => rfl
        exact unnamed.trans add

theorem lend : registry.Carries (registry.lend key) [] :=
  update fun _ => rfl

theorem takeBack : registry.Carries (registry.takeBack key).2 [] := by
  have returned : registry.Carries (registry.update key fun slot => { slot with lent := slot.lent - 1 }) [] :=
    update fun _ => rfl
  unfold Registry.takeBack
  dsimp only
  split
  · exact returned
  · split
    · exact returned.trans remove
    · exact returned

end Carries

/-! ### Slots that are lent -/

/-- What is lent is there as before: with its handle, and lent as often. -/
def Honours (before after : Registry) : Prop :=
  ∀ slot ∈ before.slots, 0 < slot.lent →
    ∃ later ∈ after.slots, later.key = slot.key ∧ later.handle = slot.handle ∧ later.lent = slot.lent

namespace Honours

theorem refl (registry : Registry) : registry.Honours registry :=
  fun slot member _ => ⟨slot, member, rfl, rfl, rfl⟩

theorem trans (first : before.Honours middle) (second : middle.Honours after) :
    before.Honours after := by
  intro slot member lent
  obtain ⟨between, there, sameKey, sameHandle, sameLent⟩ := first slot member lent
  obtain ⟨later, still, key, handle, often⟩ := second between there (sameLent ▸ lent)
  exact ⟨later, still, key.trans sameKey, handle.trans sameHandle, often.trans sameLent⟩

/-- What is done to a slot that is not lent is nothing to those that are. -/
theorem update (member : slot ∈ registry.slots) (free : slot.lent = 0) :
    registry.Honours (registry.update slot.key change) := by
  intro other there lent
  refine ⟨other, mem_update.mpr ⟨other, there, changeAt_of_other fun same => ?_⟩, rfl, rfl, rfl⟩
  rw [slot_unique there member same, free] at lent
  exact Nat.lt_irrefl 0 lent

theorem remove (member : slot ∈ registry.slots) (free : slot.lent = 0) :
    registry.Honours (registry.remove slot.key) := by
  intro other there lent
  refine ⟨other, mem_remove.mpr ⟨there, fun same => ?_⟩, rfl, rfl, rfl⟩
  rw [slot_unique there member same, free] at lent
  exact Nat.lt_irrefl 0 lent

theorem add : registry.Honours (registry.add name handle) :=
  fun slot member _ => ⟨slot, mem_add.mpr (.inl member), rfl, rfl, rfl⟩

theorem unname : registry.Honours (registry.update key fun slot => { slot with name := none }) := by
  intro slot member _
  refine ⟨_, mem_update.mpr ⟨slot, member, rfl⟩, changeAt_key slot, changeAt_handle fun _ => rfl, ?_⟩
  unfold changeAt
  split <;> rfl

theorem place : registry.Honours (registry.place name handle).2 := by
  unfold Registry.place
  cases found : registry.slot? name with
  | none => exact add
  | some old =>
      dsimp only
      split
      · rename_i free
        exact (remove (mem_of_slot? found) free).trans add
      · exact unname.trans add

/-- Lending a slot and taking it back leaves it lent as often as it was. -/
theorem lending (honours : (before.lend key).Honours middle) : before.Honours (middle.takeBack key).2 := by
  intro slot member lent
  let lend (slot : Slot) : Slot := { slot with lent := slot.lent + 1 }
  let back (slot : Slot) : Slot := { slot with lent := slot.lent - 1 }
  have often : 0 < (changeAt key lend slot).lent := by
    unfold changeAt
    split <;> simp [lend, lent]
  obtain ⟨between, there, sameKey, sameHandle, sameLent⟩ :=
    honours _ (mem_update.mpr ⟨slot, member, rfl⟩) often
  rw [changeAt_key] at sameKey
  have returned : changeAt key back between ∈ (middle.update key back).slots :=
    mem_update.mpr ⟨between, there, rfl⟩
  have handle : (changeAt key back between).handle = slot.handle := by
    have lentHandle : (changeAt key lend slot).handle = slot.handle := changeAt_handle fun _ => rfl
    have backHandle : (changeAt key back between).handle = between.handle :=
      changeAt_handle fun _ => rfl
    exact backHandle.trans (sameHandle.trans lentHandle)
  have asOften : (changeAt key back between).lent = slot.lent := by
    by_cases here : slot.key = key
    · rw [changeAt_of_key here] at sameLent
      rw [changeAt_of_key (sameKey.trans here)]
      exact Nat.sub_eq_of_eq_add sameLent
    · rw [changeAt_of_other here] at sameLent
      rw [changeAt_of_other fun same => here (sameKey.symm.trans same), sameLent]
  have kept : ∃ later ∈ (middle.update key back).slots,
      later.key = slot.key ∧ later.handle = slot.handle ∧ later.lent = slot.lent :=
    ⟨_, returned, (changeAt_key between).trans sameKey, handle, asOften⟩
  change ∃ later ∈ (Registry.takeBack middle key).2.slots, _
  unfold Registry.takeBack
  dsimp only
  split
  · exact kept
  · rename_i found keyed
    split
    · rename_i unwanted
      obtain ⟨foundMember, foundKey⟩ := mem_of_keyed? keyed
      obtain ⟨later, still, sameKey, facts⟩ := kept
      refine ⟨later, mem_remove.mpr ⟨still, fun same => ?_⟩, sameKey, facts⟩
      rw [← slot_unique still foundMember (same.trans foundKey.symm), facts.2] at unwanted
      exact Nat.ne_of_gt lent unwanted.2
    · exact kept

/-- A slot that is lent keeps its handle for as long. -/
theorem lent (honours : (registry.lend slot.key).Honours after) (member : slot ∈ registry.slots) :
    ∃ later ∈ after.slots, later.key = slot.key ∧ later.handle = slot.handle := by
  let lend (slot : Slot) : Slot := { slot with lent := slot.lent + 1 }
  have here : changeAt slot.key lend slot = { slot with lent := slot.lent + 1 } := changeAt_of_key rfl
  have there : { slot with lent := slot.lent + 1 } ∈ (registry.lend slot.key).slots :=
    mem_update.mpr ⟨slot, member, here⟩
  obtain ⟨later, still, key, handle, -⟩ := honours _ there (Nat.succ_pos _)
  exact ⟨later, still, key, handle⟩

end Honours

end NetSwitch.Scenario.Registry
