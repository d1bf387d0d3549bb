import NetSwitch.Proofs.Syscall

/-! The course of a run: the steps that it consists of, each with the machines that it found and
left.

What a step is, is left open.  `Syscall.Does` makes the system calls the steps; coarser ones come
with the work that they are steps of.  Between steps a thread may write to the log and note its
state, but it asks nothing of the kernel and stays where it is.
-/

namespace NetSwitch

open Kernel (Call CallKind Descriptor Entry Report)

structure Machine.Pauses (before after : Machine) : Prop where
  kernel : after.kernel = before.kernel
  location : after.thread.location = before.thread.location
  privileged : after.thread.privileged = before.thread.privileged

structure Moment (κ : Type) where
  start : Machine
  step : κ
  finish : Machine

inductive Course (does : κ → Machine → Machine → Prop) : Machine → List (Moment κ) → Machine → Prop where
  | done {before after : Machine} (pauses : before.Pauses after) : Course does before [] after
  | step {before after : Machine} {moment : Moment κ} {rest : List (Moment κ)}
      (pauses : before.Pauses moment.start) (ran : does moment.step moment.start moment.finish)
      (course : Course does moment.finish rest after) : Course does before (moment :: rest) after

namespace Machine.Pauses

variable {before middle after : Machine}

theorem refl (machine : Machine) : machine.Pauses machine :=
  ⟨rfl, rfl, rfl⟩

theorem trans (first : before.Pauses middle) (second : middle.Pauses after) : before.Pauses after :=
  ⟨second.kernel.trans first.kernel, second.location.trans first.location,
    second.privileged.trans first.privileged⟩

theorem of_alike (alike : before.Alike after) : before.Pauses after :=
  ⟨alike.kernel, by rw [alike.thread], by rw [alike.thread]⟩

theorem of_emit {event : Log.Event} (ran : Op.emit event before = ((), after)) :
    before.Pauses after :=
  .of_alike (Op.emit_alike ran)

theorem of_setState {state : SwitchState} (ran : Op.setState state before = ((), after)) :
    before.Pauses after := by
  cases ran
  exact ⟨rfl, rfl, rfl⟩

end Machine.Pauses

namespace Course

variable {does : κ → Machine → Machine → Prop} {before middle after : Machine}
variable {moments rest : List (Moment κ)} {step : κ}

theorem single (ran : does step before after) : Course does before [⟨before, step, after⟩] after :=
  .step (.refl _) ran (.done (.refl _))

theorem after_pause (pauses : before.Pauses middle) (course : Course does middle moments after) :
    Course does before moments after := by
  cases course with
  | done rests => exact .done (pauses.trans rests)
  | step rests ran course => exact .step (pauses.trans rests) ran course

theorem append (first : Course does before moments middle) (second : Course does middle rest after) :
    Course does before (moments ++ rest) after := by
  induction first with
  | done pauses => exact second.after_pause pauses
  | step pauses ran _ ih => exact .step pauses ran (ih second)

theorem then_pause (course : Course does before moments middle) (pauses : middle.Pauses after) :
    Course does before moments after := by
  have joined := course.append (.done pauses)
  rwa [List.append_nil] at joined

/-- What pauses and every step keep, a course keeps. -/
theorem keeps (kept : Machine → Prop) (course : Course does before moments after)
    (paused : ∀ {before after : Machine}, before.Pauses after → kept before → kept after)
    (stepped : ∀ moment ∈ moments, does moment.step moment.start moment.finish →
      kept moment.start → kept moment.finish) (start : kept before) : kept after := by
  induction course with
  | done pauses => exact paused pauses start
  | step pauses ran course ih =>
      have next := stepped _ (by simp) ran (paused pauses start)
      exact ih (fun moment member => stepped moment (by simp [member])) next

end Course
end NetSwitch
