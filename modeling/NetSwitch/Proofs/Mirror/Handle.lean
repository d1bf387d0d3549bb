import NetSwitch.Device
import NetSwitch.Handle
import NetSwitch.Proofs.Mirror.Syscall

/-! Handles and devices on a machine and on its mirror. -/

namespace NetSwitch

open Kernel (Descriptor)

def Renumbering.handle (renumbering : Renumbering) (handle : Handle) : Handle :=
  { handle with descriptor? := handle.descriptor?.map renumbering.descriptor }

/-- A handle that is no newer than the limit keeps its descriptor. -/
theorem Renumbering.handle_of_old {renumbering : Renumbering} {handle : Handle}
    (old : ∀ descriptor ∈ handle.descriptor?, descriptor.number ≤ renumbering.limit) :
    renumbering.handle handle = handle := by
  obtain ⟨_ | descriptor, id, path⟩ := handle
  · rfl
  · simp [Renumbering.handle, descriptor_of_le (old descriptor rfl)]

theorem Renumbering.handle_of_gap {renumbering : Renumbering} (none : renumbering.gap = 0) :
    renumbering.handle = id := by
  funext handle
  simp only [Renumbering.handle, descriptor_of_gap none, Option.map_id, id]

theorem Renumbering.handle_ne {renumbering : Renumbering} {handle : Handle} {descriptor : Descriptor}
    (skipped : renumbering.skips descriptor = true) :
    (renumbering.handle handle).descriptor? ≠ some descriptor := by
  intro owned
  obtain ⟨other, -, rfl⟩ := Option.map_eq_some_iff.mp owned
  rw [skips_descriptor] at skipped
  cases skipped

namespace Mirror

variable {mirror : Mirror}

/-! ### Handles -/

open Handle

theorem isNetwork (descriptor : Descriptor) :
    mirror.Ops (Answered Eq) (isNetwork descriptor) (isNetwork (mirror.descriptor descriptor)) := by
  refine .bind (fstatfs descriptor) fun _ _ answered => ?_
  rcases answered with @⟨found, _, rfl⟩ | errno
  · cases found with
    | false => exact .pure (.refl _)
    | true =>
        refine .bind (nstype descriptor) fun _ _ answered => ?_
        rcases answered with ⟨⟨⟩⟩ | errno <;> dsimp only <;> split <;> exact .pure (.refl _)
  · exact .pure (.refl _)

theorem identify (path : Path) (descriptor : Descriptor) :
    mirror.Ops (Answered Eq) (identify path descriptor)
      (identify path (mirror.descriptor descriptor)) := by
  refine .bind (isNetwork descriptor) fun _ _ answered => ?_
  rcases answered with @⟨found, _, rfl⟩ | errno
  · cases found with
    | false => exact .pure (.refl _)
    | true =>
        refine .bind (fstat descriptor) fun _ _ answered => ?_
        rcases answered with ⟨⟨⟩⟩ | errno <;> exact .pure (.refl _)
  · exact .pure (.refl _)

theorem adopt (path : Path) (descriptor : Descriptor) :
    mirror.Ops (Answered (mirror.handle · = ·)) (adopt path descriptor)
      (adopt path (mirror.descriptor descriptor)) := by
  refine .bind (identify path descriptor) fun _ _ answered => ?_
  rcases answered with ⟨⟨⟩⟩ | e
  · exact .bind (emit _ _) fun _ _ _ => .pure (.ok rfl)
  · exact .bind (close descriptor) fun _ _ _ => .pure (.error e)

theorem openPath (path : Path) :
    mirror.Ops (Answered (mirror.handle · = ·)) (openPath path) (openPath path) := by
  unfold Handle.openPath
  split
  · exact .pure (.error _)
  · refine .bind (openFile path) fun _ _ answered => ?_
    rcases answered with ⟨⟨⟩⟩ | errno
    · exact adopt path _
    · exact .pure (.error _)

theorem duplicate (handle : Handle) :
    mirror.Ops (Answered (mirror.handle · = ·)) handle.duplicate (mirror.handle handle).duplicate := by
  obtain ⟨_ | descriptor, id, path⟩ := handle
  · exact .pure (.error _)
  · refine .bind (dup descriptor) fun _ _ answered => ?_
    rcases answered with ⟨⟨⟩⟩ | errno
    · exact .pure (.ok rfl)
    · exact .pure (.error _)

theorem closeHandle (handle : Handle) :
    mirror.Ops (Answered Eq) handle.close (mirror.handle handle).close := by
  obtain ⟨_ | descriptor, id, path⟩ := handle
  · exact .pure (.refl _)
  · refine .bind (close descriptor) fun _ _ answered => ?_
    rcases answered with ⟨⟨⟩⟩ | errno
    · exact .bind (emit _ _) fun _ _ _ => .pure (.refl _)
    · exact .pure (.refl _)

theorem drop (handle : Handle) : mirror.Ops Eq handle.drop (mirror.handle handle).drop := by
  obtain ⟨_ | descriptor, id, path⟩ := handle
  · exact .pure rfl
  · exact .bind (emit _ _) fun _ _ _ => .bind (close descriptor) fun _ _ _ => .pure rfl

theorem dropAll (handles : List Handle) :
    mirror.Ops Eq (dropAll handles) (dropAll (handles.map mirror.handle)) := by
  induction handles with
  | nil => exact .pure rfl
  | cons handle rest ih => exact .bind (drop handle) fun _ _ _ => ih

theorem ownIdentity : mirror.Ops (Answered Eq) ownIdentity ownIdentity := by
  refine .bind (stat _) fun _ _ answered => ?_
  rcases answered with ⟨⟨⟩⟩ | errno <;> exact .pure (.refl _)

/-! ### Devices -/

open Device

theorem withSocket {Alike : α → β → Prop} {use : Descriptor → Op (Except Error α)}
    {use' : Descriptor → Op (Except Error β)}
    (uses : ∀ socket, mirror.Ops (Answered Alike) (use socket) (use' (mirror.descriptor socket))) :
    mirror.Ops (Answered Alike) (withSocket use) (withSocket use') := by
  refine .bind socket fun _ _ answered => ?_
  rcases answered with ⟨⟨⟩⟩ | errno
  · refine .bind (uses _) fun _ _ answered => ?_
    exact .bind (close _) fun _ _ _ => .pure answered
  · exact .pure (.error _)

theorem readFlags (device : Device) (socket : Descriptor) :
    mirror.Ops (Answered Eq) (device.readFlags socket)
      (device.readFlags (mirror.descriptor socket)) := by
  unfold Device.readFlags
  cases device.field with
  | error e => exact .pure (.error e)
  | ok field =>
      refine .bind (getFlags socket field) fun _ _ answered => ?_
      rcases answered with ⟨⟨⟩⟩ | errno <;> exact .pure (.refl _)

theorem state (device : Device) : mirror.Ops (Answered Eq) device.state device.state := by
  refine withSocket fun socket => .bind (readFlags device socket) fun _ _ answered => ?_
  rcases answered with ⟨⟨⟩⟩ | e <;> exact .pure (.refl _)

theorem bring (device : Device) (desired : LinkState) :
    mirror.Ops (Answered Eq) (device.bring desired) (device.bring desired) := by
  refine withSocket fun socket => .bind (readFlags device socket) fun _ _ answered => ?_
  rcases answered with @⟨⟨field, flags⟩, _, rfl⟩ | e
  · dsimp only
    split
    · exact .bind (emit _ _) fun _ _ _ => .pure (.refl _)
    · refine .bind (setFlags socket field _) fun _ _ answered => ?_
      rcases answered with ⟨⟨⟩⟩ | errno
      · exact .bind (emit _ _) fun _ _ _ => .pure (.refl _)
      · exact .pure (.refl _)
  · exact .pure (.error e)

end Mirror

end NetSwitch
