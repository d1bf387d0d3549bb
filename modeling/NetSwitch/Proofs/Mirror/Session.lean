import NetSwitch.Proofs.Mirror.Handle
import NetSwitch.Proofs.Scenario.Registry
import NetSwitch.Scenario.Run

/-! What a program keeps on a machine and on its mirror: the same handles, renumbered, and the same
answers, but for how many descriptors were open. -/

namespace NetSwitch.Scenario

/-! ### Answers -/

mutual

/-- What an action answers where more descriptors are open. -/
def Content.raised (more : Nat) : Content V → Content V
  | .ranInside inner outcome => .ranInside (raisedInner more inner) outcome
  | .thread inner => .thread (raisedAll more inner)
  | content => content

def Answer.raised (more : Nat) : Answer V → Answer V
  | .mk content location descriptors => .mk (content.raised more) location (descriptors + more)

def raisedAll (more : Nat) : List (Answer V) → List (Answer V)
  | [] => []
  | answer :: rest => answer.raised more :: raisedAll more rest

def raisedInner (more : Nat) : Option (List (Answer V)) → Option (List (Answer V))
  | none => none
  | some answers => some (raisedAll more answers)

end

mutual

theorem Content.raised_zero (content : Content V) : content.raised 0 = content := by
  cases content
  case ranInside inner outcome => rw [Content.raised, raisedInner_zero]
  case thread inner => rw [Content.raised, raisedAll_zero]
  all_goals rfl

theorem Answer.raised_zero (answer : Answer V) : answer.raised 0 = answer := by
  obtain ⟨content, location, descriptors⟩ := answer
  rw [Answer.raised, Content.raised_zero, Nat.add_zero]

theorem raisedAll_zero (answers : List (Answer V)) : raisedAll 0 answers = answers := by
  cases answers with
  | nil => rfl
  | cons answer rest => rw [raisedAll, Answer.raised_zero, raisedAll_zero]

theorem raisedInner_zero (inner : Option (List (Answer V))) : raisedInner 0 inner = inner := by
  cases inner with
  | none => rfl
  | some answers => rw [raisedInner, raisedAll_zero]

end

def Reaction.raised (more : Nat) : Reaction V → Reaction V
  | .answered content failure => .answered (content.raised more) failure
  | .unwound payload => .unwound payload

/-! ### Handles -/

/-- The number of its descriptor cannot be seen of a handle. -/
theorem Info.of_renumbered {renumbering : Renumbering} {handle : Handle} :
    Info.of (renumbering.handle handle) = Info.of handle := by
  obtain ⟨_ | descriptor, id, path⟩ := handle <;> rfl

def Yield.renumbered (renumbering : Renumbering) : Yield V → Yield V
  | .value result => .value result
  | .handle given name => .handle (renumbering.handle given) name

theorem Yield.renumbered_of_gap {renumbering : Renumbering} (none : renumbering.gap = 0)
    (result : Yield V) : result.renumbered renumbering = result := by
  cases result <;> simp only [Yield.renumbered, Renumbering.handle_of_gap none, id]

def Slot.renumbered (renumbering : Renumbering) (slot : Slot) : Slot :=
  { slot with handle := renumbering.handle slot.handle }

namespace Registry

variable {renumbering : Renumbering} {registry : Registry} {key : Nat} {name : String}

def renumbered (renumbering : Renumbering) (registry : Registry) : Registry :=
  { registry with
    slots := registry.slots.map (Slot.renumbered renumbering)
    numbered := registry.numbered.map _ fun _ => rfl }

theorem slot?_renumbered :
    (registry.renumbered renumbering).slot? name =
      (registry.slot? name).map (Slot.renumbered renumbering) :=
  List.find?_map ..

theorem keyed?_renumbered :
    (registry.renumbered renumbering).keyed? key =
      (registry.keyed? key).map (Slot.renumbered renumbering) :=
  List.find?_map ..

theorem update_renumbered {change : Slot → Slot}
    (apart : ∀ slot, change (slot.renumbered renumbering) = (change slot).renumbered renumbering) :
    (registry.renumbered renumbering).update key change =
      (registry.update key change).renumbered renumbering := by
  simp only [update, renumbered, List.map_map, Registry.mk.injEq, and_true]
  apply List.map_congr_left
  intro slot _
  simp only [Function.comp, changeAt, apart]
  split <;> rename_i same <;> simp only [Slot.renumbered] at same <;> simp [same, Slot.renumbered]

theorem remove_renumbered :
    (registry.renumbered renumbering).remove key = (registry.remove key).renumbered renumbering := by
  simp only [remove, renumbered, List.filter_map, Registry.mk.injEq, and_true]
  rfl

theorem add_renumbered {handle : Handle} :
    (registry.renumbered renumbering).add name (renumbering.handle handle) =
      (registry.add name handle).renumbered renumbering := by
  simp [add, renumbered, Slot.renumbered]

theorem place_renumbered {handle : Handle} :
    (registry.renumbered renumbering).place name (renumbering.handle handle) =
      Prod.map (Option.map renumbering.handle) (renumbered renumbering)
        (registry.place name handle) := by
  simp only [place, slot?_renumbered]
  cases registry.slot? name with
  | none => simp [add_renumbered]
  | some old =>
      by_cases free : old.lent = 0
      · simp [Slot.renumbered, free, remove_renumbered, add_renumbered]
      · have unnamed : (registry.renumbered renumbering).update old.key
              (fun slot => { slot with name := none }) =
            (registry.update old.key fun slot => { slot with name := none }).renumbered renumbering :=
          update_renumbered fun _ => rfl
        simp [Slot.renumbered, free, unnamed, add_renumbered]

theorem lend_renumbered :
    (registry.renumbered renumbering).lend key = (registry.lend key).renumbered renumbering :=
  update_renumbered fun _ => rfl

theorem takeBack_renumbered :
    (registry.renumbered renumbering).takeBack key =
      Prod.map (Option.map renumbering.handle) (renumbered renumbering) (registry.takeBack key) := by
  have updated : (registry.renumbered renumbering).update key
      (fun slot => { slot with lent := slot.lent - 1 }) =
      (registry.update key fun slot => { slot with lent := slot.lent - 1 }).renumbered renumbering :=
    update_renumbered fun _ => rfl
  simp only [takeBack, updated, keyed?_renumbered]
  generalize (registry.update key fun slot => { slot with lent := slot.lent - 1 }) = returning
  cases returning.keyed? key with
  | none => simp
  | some returned =>
      simp only [Option.map_some, Slot.renumbered, remove_renumbered]
      split <;> rfl

/-- Handles that are no newer than the limit keep their descriptors. -/
theorem renumbered_of_old
    (old : ∀ handle ∈ registry.handles, ∀ descriptor ∈ handle.descriptor?,
      descriptor.number ≤ renumbering.limit) : registry.renumbered renumbering = registry := by
  have same : registry.slots.map (Slot.renumbered renumbering) = registry.slots := by
    apply (List.map_congr_left fun slot member => ?_).trans (List.map_id _)
    simp [Slot.renumbered, Renumbering.handle_of_old (old slot.handle (mem_handles member))]
  simp only [renumbered, same]

theorem renumbered_of_gap (none : renumbering.gap = 0) : registry.renumbered renumbering = registry := by
  have same : Slot.renumbered renumbering = id := by
    funext slot
    simp only [Slot.renumbered, Renumbering.handle_of_gap none, id]
  simp only [renumbered, same, List.map_id]

end Registry

def Session.renumbered (renumbering : Renumbering) (more : Nat) (session : Session V) : Session V where
  registry := session.registry.renumbered renumbering
  inner := raisedInner more session.inner

theorem Session.renumbered_of_gap {renumbering : Renumbering} (none : renumbering.gap = 0)
    (session : Session V) : session.renumbered renumbering 0 = session := by
  rw [Session.renumbered, Registry.renumbered_of_gap none, raisedInner_zero]

end NetSwitch.Scenario
