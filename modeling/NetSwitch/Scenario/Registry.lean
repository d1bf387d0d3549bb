import NetSwitch.Handle
import NetSwitch.Switch.Outcome

/-! The handles that a program holds, by name. -/

namespace NetSwitch.Scenario

/-- A handle that is held.  It is lent to the switches that run with it.  One whose
name has been given to another handle while it is lent is held without a name
until it comes back. -/
structure Slot where
  key : Nat
  name : Option String
  handle : Handle
  lent : Nat := 0
deriving DecidableEq, Repr

/-- The slots stand in the order of their keys, and no key is as large as the next one. -/
structure Registry.Numbered (slots : List Slot) (nextKey : Nat) : Prop where
  ascending : slots.Pairwise fun a b => a.key < b.key
  bounded : ∀ slot ∈ slots, slot.key < nextKey

namespace Registry.Numbered

variable {slots : List Slot} {nextKey : Nat}

theorem nil : Numbered [] nextKey :=
  ⟨.nil, by simp⟩

theorem filter (numbered : Numbered slots nextKey) (keep : Slot → Bool) :
    Numbered (slots.filter keep) nextKey where
  ascending := numbered.ascending.filter keep
  bounded slot member := numbered.bounded slot (List.mem_filter.mp member).1

theorem map (numbered : Numbered slots nextKey) (change : Slot → Slot)
    (kept : ∀ slot, (change slot).key = slot.key) : Numbered (slots.map change) nextKey where
  ascending := by
    refine List.pairwise_map.mpr (numbered.ascending.imp fun smaller => ?_)
    rw [kept, kept]
    exact smaller
  bounded := by
    intro slot member
    obtain ⟨old, older, rfl⟩ := List.mem_map.mp member
    rw [kept]
    exact numbered.bounded old older

theorem append (numbered : Numbered slots nextKey) (name : Option String) (handle : Handle) :
    Numbered (slots ++ [{ key := nextKey, name, handle }]) (nextKey + 1) where
  ascending := by
    refine List.pairwise_append.mpr ⟨numbered.ascending, List.pairwise_singleton .., ?_⟩
    intro slot member fresh same
    rw [List.mem_singleton.mp same]
    exact numbered.bounded slot member
  bounded := by
    intro slot member
    rcases List.mem_append.mp member with older | fresh
    · exact Nat.lt_succ_of_lt (numbered.bounded slot older)
    · rw [List.mem_singleton.mp fresh]
      exact Nat.lt_succ_self _

end Registry.Numbered

/-- The handles that are held, each under a key of its own. -/
structure Registry where
  slots : List Slot := []
  nextKey : Nat := 0
  numbered : Registry.Numbered slots nextKey := by exact .nil
deriving DecidableEq, Repr

namespace Registry

def slot? (registry : Registry) (name : String) : Option Slot :=
  registry.slots.find? fun slot => slot.name = some name

def keyed? (registry : Registry) (key : Nat) : Option Slot :=
  registry.slots.find? fun slot => slot.key = key

def changeAt (key : Nat) (change : Slot → Slot) (slot : Slot) : Slot :=
  if slot.key = key then { change slot with key } else slot

theorem changeAt_key {key : Nat} {change : Slot → Slot} (slot : Slot) :
    (changeAt key change slot).key = slot.key := by
  unfold changeAt
  split
  · exact Eq.symm ‹_›
  · rfl

def update (registry : Registry) (key : Nat) (change : Slot → Slot) : Registry :=
  { registry with
    slots := registry.slots.map (changeAt key change)
    numbered := registry.numbered.map _ changeAt_key }

def remove (registry : Registry) (key : Nat) : Registry :=
  { registry with
    slots := registry.slots.filter (·.key ≠ key)
    numbered := registry.numbered.filter _ }

def add (registry : Registry) (name : String) (handle : Handle) : Registry :=
  { slots := registry.slots ++ [{ key := registry.nextKey, name := some name, handle }]
    nextKey := registry.nextKey + 1
    numbered := registry.numbered.append (some name) handle }

/-- Holds a handle under a name.  Another handle that had the name is let go of, or
left without a name if it is lent. -/
def place (registry : Registry) (name : String) (handle : Handle) : Option Handle × Registry :=
  match registry.slot? name with
  | none => (none, registry.add name handle)
  | some old =>
      if old.lent = 0 then (some old.handle, (registry.remove old.key).add name handle)
      else (none, (registry.update old.key fun slot => { slot with name := none }).add name handle)

def lend (registry : Registry) (key : Nat) : Registry :=
  registry.update key fun slot => { slot with lent := slot.lent + 1 }

/-- Takes the handle with a key back from one that it was lent to.  If it has lost its
name in the meantime and is lent to nobody else, it is let go of. -/
def takeBack (registry : Registry) (key : Nat) : Option Handle × Registry :=
  let registry := registry.update key fun slot => { slot with lent := slot.lent - 1 }
  match registry.keyed? key with
  | none => (none, registry)
  | some returned =>
      if returned.name.isNone ∧ returned.lent = 0 then (some returned.handle, registry.remove key)
      else (none, registry)

end Registry

end NetSwitch.Scenario
