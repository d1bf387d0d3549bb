import NetSwitch.Device

/-! The flags of devices: what setting them changes, and what it leaves as it was. -/

namespace NetSwitch

namespace Device

variable {flags : UInt16} {state : LinkState}

theorem upFlag_bit {index : Nat} (bound : index < 16) :
    upFlag.toBitVec[index] = decide (index = 0) := by
  have one : upFlag.toBitVec = 1#16 := rfl
  simp only [one, BitVec.getElem_one]

theorem and_upFlag_eq_zero : flags &&& upFlag = 0 ↔ flags.toBitVec[0] = false := by
  constructor
  · intro zero
    have bit := congrArg (fun word : UInt16 => word.toBitVec[0]) zero
    simpa [upFlag_bit] using bit
  · intro clear
    refine UInt16.toBitVec_inj.mp (BitVec.eq_of_getElem_eq fun index bound => ?_)
    by_cases first : index = 0
    · subst first
      simp [clear]
    · simp [upFlag_bit, first]

theorem stateOf_eq : stateOf flags = if flags.toBitVec[0] then .up else .down := by
  unfold stateOf
  by_cases zero : flags &&& upFlag = 0
  · simp [zero, and_upFlag_eq_zero.mp zero]
  · have bit : flags.toBitVec[0] = true := by simpa [and_upFlag_eq_zero] using zero
    simp [zero, bit]

@[simp] theorem stateOf_withState : stateOf (withState flags state) = state := by
  cases state <;> simp [stateOf_eq, withState, upFlag_bit]

theorem withState_others : withState flags state &&& ~~~upFlag = flags &&& ~~~upFlag := by
  refine UInt16.toBitVec_inj.mp (BitVec.eq_of_getElem_eq fun index bound => ?_)
  cases state <;> by_cases first : index = 0 <;> simp [withState, upFlag_bit, first]

theorem withState_of_stateOf (same : stateOf flags = state) : withState flags state = flags := by
  refine UInt16.toBitVec_inj.mp (BitVec.eq_of_getElem_eq fun index bound => ?_)
  rw [stateOf_eq] at same
  by_cases first : index = 0
  · subst first
    cases bit : flags.toBitVec[0] <;> simp [bit] at same <;> subst same <;>
      simp [withState, upFlag_bit, bit]
  · cases state <;> simp [withState, upFlag_bit, first]

end Device

namespace Kernel

variable {kernel before after : Kernel} {location other : String} {device : Bytes} {flags : UInt16}

/-- The namespaces with their devices, but without the flags of these. -/
def layout (kernel : Kernel) : List (String × NamespaceId × List String) :=
  kernel.namespaces.map fun n => (n.name, n.id, n.devices.map (·.name))

theorem flags?_of_namespaces (same : after.namespaces = before.namespaces) :
    after.flags? location device = before.flags? location device := by
  simp only [flags?, namespace?, same]

theorem setFlags_of_namespaces (same : after.namespaces = before.namespaces) :
    (after.setFlags location device flags).namespaces =
      (before.setFlags location device flags).namespaces := by
  simp only [setFlags, modifyDevices, same]

theorem layout_of_namespaces (same : after.namespaces = before.namespaces) :
    after.layout = before.layout := by
  rw [layout, same, layout]

theorem namespace?_modifyDevices {change : List Device → List Device} :
    (kernel.modifyDevices location change).namespace? other =
      (kernel.namespace? other).map fun n =>
        if other = location then { n with devices := change n.devices } else n := by
  have named : (fun n : Namespace => decide (n.name = other)) ∘
      (fun n => if n.name = location then { n with devices := change n.devices } else n) =
        fun n => decide (n.name = other) := by
    funext n
    simp only [Function.comp_apply]
    split <;> rfl
  simp only [namespace?, modifyDevices, List.find?_map, named]
  cases found : kernel.namespaces.find? fun n => decide (n.name = other) with
  | none => rfl
  | some n =>
      have name : n.name = other := by simpa using List.find?_some found
      simp [name]

theorem find?_device {devices : List Device} {name : Bytes} :
    (devices.map fun d => if Bytes.ofString d.name = device then { d with flags } else d).find?
        (fun d => decide (Bytes.ofString d.name = name)) =
      (devices.find? fun d => decide (Bytes.ofString d.name = name)).map fun d =>
        if name = device then { d with flags } else d := by
  have named : (fun d : Device => decide (Bytes.ofString d.name = name)) ∘
      (fun d => if Bytes.ofString d.name = device then { d with flags } else d) =
        fun d => decide (Bytes.ofString d.name = name) := by
    funext d
    simp only [Function.comp_apply]
    split <;> rfl
  rw [List.find?_map, named]
  cases found : devices.find? fun d => decide (Bytes.ofString d.name = name) with
  | none => rfl
  | some d =>
      have same : Bytes.ofString d.name = name := by simpa using List.find?_some found
      simp [same]

/-- Setting the flags of a device changes what is read of that device, if there is one, and
of no other. -/
theorem flags?_setFlags {name : Bytes} :
    (kernel.setFlags location device flags).flags? other name =
      if other = location ∧ name = device then (kernel.flags? other name).map fun _ => flags
      else kernel.flags? other name := by
  simp only [flags?, setFlags, namespace?_modifyDevices]
  cases kernel.namespace? other with
  | none => simp
  | some n =>
      by_cases here : other = location
      · simp only [here, if_true, Option.map_some, Option.bind_eq_bind, Option.bind_some,
          find?_device, true_and]
        cases n.devices.find? fun d => decide (Bytes.ofString d.name = name) with
        | none => simp
        | some d => by_cases same : name = device <;> simp [same]
      · simp [here]

theorem layout_setFlags : (kernel.setFlags location device flags).layout = kernel.layout := by
  simp only [layout, setFlags, modifyDevices, List.map_map]
  refine List.map_congr_left fun n _ => ?_
  simp only [Function.comp_apply]
  split
  · have names : (n.devices.map fun d =>
        if Bytes.ofString d.name = device then { d with flags } else d).map (·.name) =
          n.devices.map (·.name) := by
      rw [List.map_map]
      refine List.map_congr_left fun d _ => ?_
      simp only [Function.comp_apply]
      split <;> rfl
    simp only [names]
  · rfl

theorem setFlags_comm {name : Bytes} {value : UInt16} (apart : location ≠ other) :
    ((kernel.setFlags location device flags).setFlags other name value).namespaces =
      ((kernel.setFlags other name value).setFlags location device flags).namespaces := by
  simp only [setFlags, modifyDevices, List.map_map]
  refine List.map_congr_left fun n _ => ?_
  simp only [Function.comp_apply]
  by_cases first : n.name = location
  · have second : n.name ≠ other := fun same => apart (first.symm.trans same)
    simp [first, apart]
  · by_cases second : n.name = other
    · simp [second, apart.symm]
    · simp [first, second]

/-! ### Bringing a device into a state -/

/-- The kernel with a device brought into a state, if there is such a device. -/
def brought (kernel : Kernel) (location : String) (device : Bytes) (state : LinkState) : Kernel :=
  match kernel.flags? location device with
  | none => kernel
  | some flags =>
      if Device.stateOf flags = state then kernel
      else kernel.setFlags location device (Device.withState flags state)

variable {state : LinkState}

theorem brought_of_namespaces (same : after.namespaces = before.namespaces) :
    (after.brought location device state).namespaces =
      (before.brought location device state).namespaces := by
  unfold brought
  rw [flags?_of_namespaces same]
  split
  · exact same
  · split
    · exact same
    · exact setFlags_of_namespaces same

theorem flags?_brought {name : Bytes} :
    (kernel.brought location device state).flags? other name =
      if other = location ∧ name = device then
        (kernel.flags? other name).map (Device.withState · state)
      else kernel.flags? other name := by
  unfold brought
  by_cases same : other = location ∧ name = device
  · obtain ⟨rfl, rfl⟩ := same
    cases found : kernel.flags? other name with
    | none => simp [found]
    | some flags =>
        by_cases already : Device.stateOf flags = state
        · simp [already, found, Device.withState_of_stateOf already]
        · simp [already, flags?_setFlags, found]
  · rw [if_neg same]
    split
    · rfl
    · split
      · rfl
      · rw [flags?_setFlags, if_neg same]

theorem layout_brought : (kernel.brought location device state).layout = kernel.layout := by
  unfold brought
  split
  · rfl
  · split
    · rfl
    · exact layout_setFlags

/-- A device that is in the state is left alone, so bringing it there once more changes nothing. -/
theorem brought_brought :
    ((kernel.brought location device state).brought location device state).namespaces =
      (kernel.brought location device state).namespaces := by
  have found : (kernel.brought location device state).flags? location device =
      (kernel.flags? location device).map (Device.withState · state) := by
    rw [flags?_brought, if_pos ⟨rfl, rfl⟩]
  generalize kernel.brought location device state = next at found ⊢
  unfold brought
  cases old : kernel.flags? location device with
  | none => simp [found, old]
  | some flags => simp [found, old]

theorem brought_comm {name : Bytes} {wanted : LinkState} (apart : location ≠ other) :
    ((kernel.brought location device state).brought other name wanted).namespaces =
      ((kernel.brought other name wanted).brought location device state).namespaces := by
  have there : (kernel.brought location device state).flags? other name = kernel.flags? other name := by
    rw [flags?_brought, if_neg fun same => apart same.1.symm]
  have here : (kernel.brought other name wanted).flags? location device =
      kernel.flags? location device := by
    rw [flags?_brought, if_neg fun same => apart same.1]
  unfold brought at there here ⊢
  rw [there, here]
  repeat' split
  all_goals first | rfl | exact setFlags_comm apart

end Kernel
end NetSwitch
