import NetSwitch.Proofs.Text.Utf8
import NetSwitch.Device

/-! The field that a request carries the name of a device in.

It has sixteen signed characters, which are cleared and then written over from the first on, for as long
as there is more of both.  Nothing in that keeps a name from being cut, or from filling the field so that
no zero is left to end it.  `filled_holds` says which names come through, and `field?_eq` that all others
are refused before there is a field.
-/

namespace NetSwitch

open Kernel (NameField)

namespace Kernel.NameField

variable {field : NameField} {name text : Bytes}

/-- The field holds a text that ends before the first zero byte. -/
def Holds (field : NameField) (text : Bytes) : Prop :=
  0 ∉ text ∧ ∃ rest, field.bytes = text ++ 0 :: rest

/-- The kernel takes the field for that of a device: flags are read and set by comparing names so. -/
def Addresses (field : NameField) (target : Kernel.Device) : Prop :=
  Bytes.ofString target.name = field.name

theorem name_of_holds (holds : field.Holds text) : field.name = text := by
  obtain ⟨proper, rest, bytes⟩ := holds
  have through : ∀ byte ∈ text, decide (byte ≠ 0) = true := by
    intro byte member
    exact decide_eq_true fun zero => proper (zero ▸ member)
  rw [NameField.name, bytes, List.takeWhile_append_of_pos through]
  simp

/-- Writes bytes over characters, from the first on, for as long as there are more of both. -/
def overwrite : List Int8 → Bytes → List Int8
  | _ :: cells, byte :: bytes => byte.toInt8 :: overwrite cells bytes
  | cells, _ => cells

theorem overwrite_eq (cells : List Int8) (bytes : Bytes) :
    overwrite cells bytes = (bytes.take cells.length).map UInt8.toInt8 ++ cells.drop bytes.length := by
  induction cells generalizing bytes with
  | nil => simp [overwrite]
  | cons cell cells ih =>
      cases bytes with
      | nil => simp [overwrite]
      | cons byte bytes => simp [overwrite, ih]

theorem overwrite_length (cells : List Int8) (bytes : Bytes) :
    (overwrite cells bytes).length = cells.length := by
  simp only [overwrite_eq, List.length_append, List.length_map, List.length_take, List.length_drop]
  omega

/-- A cleared field that a name has been written over. -/
def filled (name : Bytes) : NameField where
  bytes := (overwrite (List.replicate 16 0) name).map Int8.toUInt8
  length_eq := by simp [overwrite_length]

theorem filled_bytes (name : Bytes) :
    (filled name).bytes = name.take 16 ++ List.replicate (16 - name.length) 0 := by
  calc
    (filled name).bytes = (overwrite (List.replicate 16 0) name).map Int8.toUInt8 := rfl
    _ = ((name.take 16).map UInt8.toInt8 ++ List.replicate (16 - name.length) 0).map Int8.toUInt8 := by
        rw [overwrite_eq, List.length_replicate, List.drop_replicate]
    _ = name.take 16 ++ List.replicate (16 - name.length) 0 := by
        have cleared : Int8.toUInt8 0 = 0 := rfl
        simp only [List.map_append, List.map_map, List.map_replicate, cleared]
        simp [Function.comp_def]

/-- The names that come through leave room for a zero byte and have none within. -/
theorem filled_holds : (filled name).Holds name ↔ name.length < 16 ∧ 0 ∉ name := by
  constructor
  · rintro ⟨proper, rest, bytes⟩
    -- Of the sixteen bytes the name has taken some, and the zero after it one.
    have length := (filled name).length_eq
    simp only [bytes, List.length_append, List.length_cons] at length
    exact ⟨by omega, proper⟩
  · rintro ⟨room, proper⟩
    have padding : 16 - name.length = 15 - name.length + 1 := by omega
    refine ⟨proper, List.replicate (15 - name.length) 0, ?_⟩
    rw [filled_bytes, List.take_of_length_le (by omega), padding, List.replicate_succ]

end Kernel.NameField

namespace Device

variable {device : Device} {field : NameField}

/-- A name that no request is made with: it is empty, it leaves no room for the byte that ends it, or
it has that byte within. -/
def Unfit (name : Bytes) : Prop :=
  name = [] ∨ 16 ≤ name.length ∨ 0 ∈ name

instance (name : Bytes) : Decidable (Unfit name) :=
  inferInstanceAs (Decidable (_ ∨ _ ∨ _))

theorem field?_eq (device : Device) :
    device.field? = if Unfit (Bytes.ofString device.name) then none
      else some (.filled (Bytes.ofString device.name)) := by
  generalize named : Bytes.ofString device.name = name
  simp only [field?, named, List.isEmpty_iff, List.contains_iff_mem]
  by_cases fits : name.length < 16
  · -- Within the field, padding a name comes to the same as writing it over zeros.
    have unfit_iff : Unfit name ↔ name = [] ∨ 0 ∈ name := by simp [Unfit, Nat.not_le.mpr fits]
    have filled : NameField.filled name = ⟨name ++ List.replicate (16 - name.length) 0, by simp; omega⟩ := by
      rw [NameField.mk.injEq, NameField.filled_bytes, List.take_of_length_le (by omega)]
    rw [dif_pos fits, filled]
    simp only [unfit_iff]
  · have unfit : Unfit name := .inr (.inl (by omega))
    rw [dif_neg fits, if_pos unfit]

/-- Bytes are counted, not characters. -/
example : (Device.mk "éééééééé").field? = none ∧ (Device.mk "éééééééa").field?.isSome := by decide

theorem field_of_unfit (unfit : Unfit (Bytes.ofString device.name)) :
    device.field = .error (.badConfiguration ("invalid device name: " ++ Text.quote device.name)) := by
  rw [Device.field, field?_eq, if_pos unfit]

theorem field_of_fit (fit : ¬ Unfit (Bytes.ofString device.name)) :
    device.field = .ok (.filled (Bytes.ofString device.name)) := by
  rw [Device.field, field?_eq, if_neg fit]

/-- The field of a request carries the name of a device: it is what is left of a cleared field, it holds
the name, and it is taken for that of devices of this very name. -/
structure Carries (device : Device) (field : NameField) : Prop where
  written : field = .filled (Bytes.ofString device.name)
  held : field.Holds (Bytes.ofString device.name)
  found : ∀ target, field.Addresses target ↔ target.name = device.name

theorem carries_of_fit (fit : ¬ Unfit (Bytes.ofString device.name)) :
    Carries device (.filled (Bytes.ofString device.name)) := by
  simp only [Unfit, not_or, Nat.not_le] at fit
  have held := NameField.filled_holds.mpr fit.2
  refine ⟨rfl, held, fun target => ?_⟩
  rw [NameField.Addresses, NameField.name_of_holds held, Bytes.ofString_inj]

theorem carries_of_naming (naming : device.field = .ok field) : Carries device field := by
  by_cases unfit : Unfit (Bytes.ofString device.name)
  · cases (field_of_unfit unfit).symm.trans naming
  · cases (field_of_fit unfit).symm.trans naming
    exact carries_of_fit unfit

theorem field_name (naming : device.field = .ok field) : field.name = Bytes.ofString device.name :=
  NameField.name_of_holds (carries_of_naming naming).held

end Device

end NetSwitch
