import Mathlib.Data.List.Basic
import NetSwitch.Proofs.Kernel.Extends

/-! Kernels of which one is the other with its descriptors renumbered.

A kernel in which some descriptors were made that the other never had gives the later ones higher
numbers.  Apart from those numbers, from the descriptors that only it has, and from the calls that
led there, it is the same.
-/

namespace NetSwitch

open Kernel (Call Descriptor Entry Object Report)

/-- A renumbering of descriptors: those above a limit move up by a gap. -/
structure Renumbering where
  limit : Nat
  gap : Nat

namespace Renumbering

def descriptor (renumbering : Renumbering) (descriptor : Descriptor) : Descriptor :=
  if descriptor.number ≤ renumbering.limit then descriptor else ⟨descriptor.number + renumbering.gap⟩

/-- Whether a descriptor is in the gap. -/
def skips (renumbering : Renumbering) (descriptor : Descriptor) : Bool :=
  renumbering.limit < descriptor.number && descriptor.number ≤ renumbering.limit + renumbering.gap

variable {renumbering : Renumbering}

theorem skips_descriptor (descriptor : Descriptor) :
    renumbering.skips (renumbering.descriptor descriptor) = false := by
  unfold Renumbering.descriptor skips
  split <;> simp <;> omega

theorem descriptor_injective : Function.Injective renumbering.descriptor := by
  intro ⟨first⟩ ⟨second⟩ same
  simp only [Renumbering.descriptor] at same
  split at same <;> split at same <;> simp only [Kernel.Descriptor.mk.injEq] at same ⊢ <;> omega

theorem descriptor_of_le {descriptor : Descriptor} (old : descriptor.number ≤ renumbering.limit) :
    renumbering.descriptor descriptor = descriptor :=
  if_pos old

theorem descriptor_next {made : Nat} (above : renumbering.limit ≤ made) :
    renumbering.descriptor ⟨made + 1⟩ = ⟨made + renumbering.gap + 1⟩ := by
  have new : ¬made + 1 ≤ renumbering.limit := by omega
  simp only [Renumbering.descriptor, if_neg new, Kernel.Descriptor.mk.injEq]
  omega

theorem descriptor_of_gap (none : renumbering.gap = 0) : renumbering.descriptor = id := by
  funext descriptor
  simp [Renumbering.descriptor, none]

def call (renumbering : Renumbering) : Call → Call
  | .openFile path => .openFile path
  | .fstatfs descriptor => .fstatfs (renumbering.descriptor descriptor)
  | .nstype descriptor => .nstype (renumbering.descriptor descriptor)
  | .fstat descriptor => .fstat (renumbering.descriptor descriptor)
  | .stat path => .stat path
  | .dup descriptor => .dup (renumbering.descriptor descriptor)
  | .close descriptor => .close (renumbering.descriptor descriptor)
  | .setns descriptor target => .setns (renumbering.descriptor descriptor) target
  | .socket => .socket
  | .getFlags descriptor field => .getFlags (renumbering.descriptor descriptor) field
  | .setFlags descriptor field flags => .setFlags (renumbering.descriptor descriptor) field flags
  | .spawn => .spawn

theorem call_kind (call : Call) : (renumbering.call call).kind = call.kind := by
  cases call <;> rfl

def report (renumbering : Renumbering) : Report → Report
  | .ok => .ok
  | .made descriptor => .made (renumbering.descriptor descriptor)
  | .failed errno => .failed errno

def entry (renumbering : Renumbering) (entry : Entry) : Entry :=
  ⟨renumbering.call entry.call, renumbering.report entry.report⟩

theorem entry_of_gap (none : renumbering.gap = 0) (entry : Entry) : renumbering.entry entry = entry := by
  obtain ⟨call, report⟩ := entry
  cases call <;> cases report <;>
    simp only [Renumbering.entry, Renumbering.call, Renumbering.report, descriptor_of_gap none, id]

def opening (renumbering : Renumbering) (opening : Descriptor × Object) : Descriptor × Object :=
  (renumbering.descriptor opening.1, opening.2)

end Renumbering

/-- How a run is to be mirrored by another: with its descriptors renumbered, with more descriptors
open, and with a trace that stands in some relation to its own. -/
structure Mirror extends Renumbering where
  /-- What is open in the mirror alone. -/
  beside : List (Descriptor × Object)
  Traces : List Entry → List Entry → Prop
  goesOn : ∀ {trace trace'}, Traces trace trace' → ∀ entry,
    Traces (trace ++ [entry]) (trace' ++ [toRenumbering.entry entry])

/-- A kernel and its mirror. -/
structure Mirror.Kernels (mirror : Mirror) (kernel kernel' : Kernel) : Prop where
  namespaces : kernel'.namespaces = kernel.namespaces
  files : kernel'.files = kernel.files
  faults : kernel'.faults = kernel.faults
  limit : mirror.limit ≤ kernel.made
  made : kernel'.made = kernel.made + mirror.gap
  descriptors : kernel'.descriptors.filter (!mirror.skips ·.1) =
    kernel.descriptors.map mirror.opening
  beside : kernel'.descriptors.filter (mirror.skips ·.1) = mirror.beside
  trace : mirror.Traces kernel.trace kernel'.trace

namespace Mirror.Kernels

open Kernel

variable {mirror : Mirror} {kernel kernel' : Kernel} {descriptor : Descriptor} {object : Object}

theorem lookup_map_opening {descriptors : List (Descriptor × Object)} {renumbering : Renumbering} :
    (descriptors.map renumbering.opening).lookup (renumbering.descriptor descriptor) =
      descriptors.lookup descriptor := by
  induction descriptors with
  | nil => rfl
  | cons first rest ih =>
      obtain ⟨other, object⟩ := first
      have alike : (renumbering.descriptor descriptor == renumbering.descriptor other) =
          (descriptor == other) := by
        rw [Bool.eq_iff_iff, beq_iff_eq, beq_iff_eq, Renumbering.descriptor_injective.eq_iff]
      simp only [List.map_cons, Renumbering.opening, List.lookup_cons, alike]
      rw [← ih]

theorem object? (kernels : mirror.Kernels kernel kernel') (descriptor : Descriptor) :
    kernel'.object? (mirror.descriptor descriptor) = kernel.object? descriptor := by
  have kept : (!mirror.skips (mirror.descriptor descriptor)) = true := by
    rw [Renumbering.skips_descriptor]
    rfl
  rw [Kernel.object?, ← lookup_filter_of_kept (!mirror.skips ·) kept, kernels.descriptors]
  exact lookup_map_opening

theorem network? (kernels : mirror.Kernels kernel kernel') (descriptor : Descriptor) :
    kernel'.network? (mirror.descriptor descriptor) = kernel.network? descriptor := by
  rw [Kernel.network?, Kernel.network?, kernels.object?]

theorem object?_beside (kernels : mirror.Kernels kernel kernel')
    (skipped : mirror.skips descriptor = true) :
    kernel'.object? descriptor = mirror.beside.lookup descriptor := by
  rw [Kernel.object?, ← lookup_filter_of_kept mirror.skips skipped, kernels.beside]

theorem node? (kernels : mirror.Kernels kernel kernel') (location : String) (path : Path) :
    kernel'.node? location path = kernel.node? location path := by
  rw [Kernel.node?, Kernel.node?, kernels.files]

theorem inode (kernels : mirror.Kernels kernel kernel') (target : Target) :
    kernel'.inode target = kernel.inode target := by
  cases target <;> simp only [Kernel.inode, Kernel.namespace?, kernels.namespaces]

theorem flags? (kernels : mirror.Kernels kernel kernel') (location : String) (device : Bytes) :
    kernel'.flags? location device = kernel.flags? location device := by
  simp only [Kernel.flags?, Kernel.namespace?, kernels.namespaces]

theorem hasFile (kernels : mirror.Kernels kernel kernel') (path : Path) :
    kernel'.hasFile path = kernel.hasFile path := by
  rw [Kernel.hasFile, Kernel.hasFile, kernels.files]

/-! ### What changes on both sides -/

theorem allocated (kernels : mirror.Kernels kernel kernel') (object : Object) :
    (kernel'.allocate object).1 = mirror.descriptor (kernel.allocate object).1 ∧
      mirror.Kernels (kernel.allocate object).2 (kernel'.allocate object).2 := by
  have next : (⟨kernel'.made + 1⟩ : Descriptor) = mirror.descriptor ⟨kernel.made + 1⟩ := by
    rw [mirror.descriptor_next kernels.limit, kernels.made]
  have kept : mirror.skips ⟨kernel'.made + 1⟩ = false := by
    rw [next, Renumbering.skips_descriptor]
  refine ⟨next, kernels.namespaces, kernels.files, kernels.faults, Nat.le_succ_of_le kernels.limit,
    ?_, ?_, ?_, kernels.trace⟩
  · simp only [Kernel.allocate, kernels.made]
    omega
  · simp only [Kernel.allocate, List.filter_append, kernels.descriptors, List.map_append,
      List.map_cons, List.map_nil, Renumbering.opening, ← next]
    simp [kept]
  · simp only [Kernel.allocate, List.filter_append, kernels.beside]
    simp [kept]

theorem released (kernels : mirror.Kernels kernel kernel') (descriptor : Descriptor) :
    mirror.Kernels (kernel.release descriptor) (kernel'.release (mirror.descriptor descriptor)) := by
  refine ⟨kernels.namespaces, kernels.files, kernels.faults, kernels.limit, kernels.made, ?_, ?_,
    kernels.trace⟩
  · simp only [Kernel.release]
    rw [List.filter_comm, kernels.descriptors, List.filter_map]
    congr 2
    funext opening
    simp [Renumbering.opening, Renumbering.descriptor_injective.eq_iff]
  · simp only [Kernel.release]
    rw [List.filter_comm, kernels.beside, List.filter_eq_self]
    intro opening member
    rw [← kernels.beside] at member
    have skipped := (List.mem_filter.mp member).2
    refine decide_eq_true fun same => ?_
    rw [same, Renumbering.skips_descriptor] at skipped
    cases skipped

theorem modifiedDevices (kernels : mirror.Kernels kernel kernel') (location : String)
    (change : List Device → List Device) :
    mirror.Kernels (kernel.modifyDevices location change) (kernel'.modifyDevices location change) :=
  { kernels with namespaces := by simp only [Kernel.modifyDevices, kernels.namespaces] }

theorem noted (kernels : mirror.Kernels kernel kernel') {trace trace' : List Entry}
    (traces : mirror.Traces trace trace') :
    mirror.Kernels { kernel with trace } { kernel' with trace := trace' } :=
  { kernels with trace := traces }

theorem met (kernels : mirror.Kernels kernel kernel') (faults : List Fault) :
    mirror.Kernels { kernel with faults } { kernel' with faults } :=
  { kernels with faults := rfl }

end Mirror.Kernels

/-! ### Mirrors with the same descriptors -/

/-- A mirror without a gap differs in nothing but its calls. -/
structure Mirror.Plain (mirror : Mirror) : Prop where
  limit : mirror.limit = 0
  gap : mirror.gap = 0
  beside : mirror.beside = []

namespace Mirror.Plain

variable {mirror : Mirror} {kernel kernel' : Kernel}

theorem opening (plain : mirror.Plain) : mirror.opening = id := by
  funext ⟨descriptor, object⟩
  simp only [Renumbering.opening, Renumbering.descriptor_of_gap plain.gap, id]

theorem skips (plain : mirror.Plain) (descriptor : Descriptor) : mirror.skips descriptor = false := by
  simp only [Renumbering.skips, plain.limit, plain.gap]
  grind

theorem kernel_eq (plain : mirror.Plain) (kernels : mirror.Kernels kernel kernel') :
    kernel' = { kernel with trace := kernel'.trace } := by
  obtain ⟨namespaces, files, faults, -, made, descriptors, -, -⟩ := kernels
  simp only [plain.skips, Bool.not_false, List.filter_true, plain.opening, List.map_id] at descriptors
  cases kernel
  cases kernel'
  simp only [plain.gap, Nat.add_zero] at namespaces files faults made descriptors
  simp [namespaces, files, faults, made, descriptors]

theorem kernels (plain : mirror.Plain) {trace : List Entry} (traces : mirror.Traces kernel.trace trace) :
    mirror.Kernels kernel { kernel with trace } where
  namespaces := rfl
  files := rfl
  faults := rfl
  limit := by simp only [plain.limit, Nat.zero_le]
  made := by simp only [plain.gap, Nat.add_zero]
  descriptors := by
    simp only [plain.skips, Bool.not_false, List.filter_true, plain.opening, List.map_id]
  beside := by simp only [plain.skips, List.filter_false, plain.beside]
  trace := traces

end Mirror.Plain

end NetSwitch
