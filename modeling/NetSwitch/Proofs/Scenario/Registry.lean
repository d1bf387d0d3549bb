import NetSwitch.Scenario.Registry

/-! The handles in a registry: what is placed in it, taken out of it, lent and taken back. -/

namespace NetSwitch.Scenario.Registry

variable {registry : Registry} {slot : Slot} {name : String} {handle : Handle} {key : Nat}

def handles (registry : Registry) : List Handle :=
  registry.slots.map (·.handle)

theorem mem_of_slot? (found : registry.slot? name = some slot) : slot ∈ registry.slots :=
  List.mem_of_find?_eq_some found

theorem mem_of_keyed? (found : registry.keyed? key = some slot) :
    slot ∈ registry.slots ∧ slot.key = key :=
  ⟨List.mem_of_find?_eq_some found, by simpa using List.find?_some found⟩

theorem mem_handles (member : slot ∈ registry.slots) : slot.handle ∈ registry.handles :=
  List.mem_map_of_mem member

@[simp] theorem handles_add :
    (registry.add name handle).handles = registry.handles ++ [handle] := by
  simp [handles, add]

theorem handles_update {change : Slot → Slot} (kept : ∀ slot, (change slot).handle = slot.handle) :
    (registry.update key change).handles = registry.handles := by
  simp only [handles, update, List.map_map]
  refine List.map_congr_left fun slot _ => ?_
  simp only [Function.comp, changeAt]
  split
  · exact kept slot
  · rfl

/-- A key belongs to one slot. -/
theorem slots_perm {slots : List Slot} {nextKey : Nat} (numbered : Numbered slots nextKey)
    (member : slot ∈ slots) : slots.Perm (slot :: slots.filter (·.key ≠ slot.key)) := by
  obtain ⟨ascending, -⟩ := numbered
  induction slots with
  | nil => cases member
  | cons first rest ih =>
      obtain ⟨smaller, ascending⟩ := List.pairwise_cons.mp ascending
      rcases List.mem_cons.mp member with rfl | later
      · have others : rest.filter (·.key ≠ slot.key) = rest := by
          refine List.filter_eq_self.mpr fun other inRest => decide_eq_true ?_
          exact Nat.ne_of_gt (smaller other inRest)
        rw [List.filter_cons_of_neg (by simp), others]
      · have other : first.key ≠ slot.key := Nat.ne_of_lt (smaller slot later)
        rw [List.filter_cons_of_pos (by simpa using other)]
        exact ((ih later ascending).cons first).trans (List.Perm.swap ..)

theorem handles_remove (member : slot ∈ registry.slots) :
    registry.handles.Perm (slot.handle :: (registry.remove slot.key).handles) :=
  (slots_perm registry.numbered member).map Slot.handle

theorem handles_closed (member : slot ∈ registry.slots) :
    (registry.update slot.key fun slot => { slot with handle := slot.handle.closed }).handles.Perm
      (slot.handle.closed :: (registry.remove slot.key).handles) := by
  let change (slot : Slot) : Slot := { slot with handle := slot.handle.closed }
  have here : changeAt slot.key change slot = { slot with handle := slot.handle.closed } :=
    if_pos rfl
  have others : (registry.slots.filter (·.key ≠ slot.key)).map (changeAt slot.key change) =
      registry.slots.filter (·.key ≠ slot.key) := by
    refine (List.map_congr_left fun other member => ?_).trans (List.map_id _)
    exact if_neg (by simpa using (List.mem_filter.mp member).2)
  have moved := ((slots_perm registry.numbered member).map (changeAt slot.key change)).map (·.handle)
  rw [List.map_cons, here, others] at moved
  exact moved

/-- Of the handle that comes into the registry and those that were there, one may be let go. -/
theorem handles_place {released : Option Handle} {placed : Registry}
    (placing : registry.place name handle = (released, placed)) :
    (handle :: registry.handles).Perm (released.toList ++ placed.handles) := by
  unfold place at placing
  cases found : registry.slot? name with
  | none =>
      rw [found] at placing
      cases placing
      simpa using (List.perm_append_singleton handle registry.handles).symm
  | some old =>
      rw [found] at placing
      dsimp only at placing
      split at placing
      · cases placing
        simp only [Option.toList, handles_add]
        refine ((handles_remove (mem_of_slot? found)).cons handle).trans ?_
        refine (List.Perm.swap ..).trans ((List.perm_append_singleton ..).symm.cons old.handle)
      · cases placing
        simp only [Option.toList, handles_add, List.nil_append]
        have kept : (registry.update old.key fun slot => { slot with name := none }).handles =
            registry.handles := handles_update fun _ => rfl
        rw [kept]
        exact (List.perm_append_singleton ..).symm

theorem handles_lend : (registry.lend key).handles = registry.handles :=
  handles_update fun _ => rfl

theorem handles_takeBack {released : Option Handle} {left : Registry}
    (taking : registry.takeBack key = (released, left)) :
    registry.handles.Perm (released.toList ++ left.handles) := by
  unfold takeBack at taking
  dsimp only at taking
  have same : (registry.update key fun slot => { slot with lent := slot.lent - 1 }).handles =
      registry.handles := handles_update fun _ => rfl
  rw [← same]
  generalize (registry.update key fun slot => { slot with lent := slot.lent - 1 }) = updated at *
  cases found : updated.keyed? key with
  | none =>
      rw [found] at taking
      cases taking
      exact .rfl
  | some returned =>
      rw [found] at taking
      dsimp only at taking
      obtain ⟨member, rfl⟩ := mem_of_keyed? found
      split at taking
      · cases taking
        exact handles_remove member
      · cases taking
        exact .rfl

end NetSwitch.Scenario.Registry
