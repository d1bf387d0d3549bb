import NetSwitch.Proofs.Switch.Run

/-! Running code inside a namespace, for whatever code it is.

The code is watched: each time it is invoked, a visit is noted with the machines that it
found and left.  What a switch comes to is then said of the visits.
-/

namespace NetSwitch.Switch

open Kernel (Descriptor Report)

variable [OfError ε] [Owns α] {destination : Handle} {body : Body σ π ε α}
variable {machine before after : Machine} {own rest : σ} {outcome : Outcome π ε α}

/-- An invocation of code inside a namespace: the handle that it was given, the machine that
it found, and what it came to and left. -/
structure Visit (π ε α : Type) where
  home : Handle
  start : Machine
  outcome : Outcome π ε α
  finish : Machine

/-- Code whose visits are noted. -/
def Body.noted (body : Body σ π ε α) : Body (σ × List (Visit π ε α)) π ε α :=
  fun home (machine, own, visits) =>
    let (outcome, left, own) := body home (machine, own)
    (outcome, left, own, visits ++ [⟨home, machine, outcome, left⟩])

/-- A run of code that is watched is a run of the code, with a visit or none. -/
theorem run_noted (ran : run destination body (before, own) = (outcome, after, rest)) :
    run destination body.noted (before, own, []) = (outcome, after, rest, []) ∧
        (∃ e, enter destination before = (.error e, after) ∧
          outcome = .failed (OfError.ofError e) ∧ rest = own) ∨
      ∃ visit : Visit π ε α,
        run destination body.noted (before, own, []) = (outcome, after, rest, [visit]) ∧
        enter destination before = (.ok visit.home, visit.start) ∧
        body visit.home (visit.start, own) = (visit.outcome, visit.finish, rest) ∧
        leave visit.home visit.outcome visit.finish = (outcome, after) := by
  rcases run_ran.mp ran with
    ⟨e, entering, rfl, rfl⟩ | ⟨home, entered, inner, left, entering, ranBody, leaving⟩
  · exact .inl ⟨run_ran.mpr (.inl ⟨e, entering, rfl, rfl⟩), e, entering, rfl, rfl⟩
  · refine .inr ⟨⟨home, entered, inner, left⟩, ?_, entering, ranBody, leaving⟩
    refine run_ran.mpr (.inr ⟨home, entered, inner, left, entering, ?_, leaving⟩)
    simp only [Body.noted, ranBody, List.nil_append]

/-- Everything that must go well for a thread to enter: it is idle, the destination is open,
opening the thread's own namespace succeeds, and so does moving the thread. -/
def Enters (destination : Handle) (machine : Machine) : Prop :=
  machine.thread.state = .idle ∧ ∃ target home opened moved,
    destination.descriptor? = some target ∧ Handle.openOwn machine = (.ok home, opened) ∧
      Syscall.setns target opened = (.ok (), moved)

theorem enters_iff : Enters destination machine ↔
    ∃ home after, enter destination machine = (.ok home, after) := by
  constructor
  · intro enters
    obtain ⟨idle, target, home, opened, moved, aims, ranOpen, ranSetns⟩ := enters
    exact ⟨home, _, enter_ok_iff.mpr ⟨idle, target, opened, moved, aims, ranOpen, ranSetns, rfl⟩⟩
  · intro enters
    obtain ⟨home, after, entering⟩ := enters
    obtain ⟨idle, target, opened, moved, aims, ranOpen, ranSetns, -⟩ := enter_ok_iff.mp entering
    exact ⟨idle, target, home, opened, moved, aims, ranOpen, ranSetns⟩

/-- What the call that moves a thread back answered, and what that makes of the outcome of the
code.  Of the two, a panic counts first, then a failure to go back. -/
structure Decided (report : Report) (inner outcome : Outcome π ε α) : Prop where
  answered : report = .ok ∨ ∃ errno, report = .failed errno
  unwound : ∀ payload, inner = .unwound payload → outcome = .unwound payload
  back : (∀ payload, inner ≠ .unwound payload) → report = .ok → outcome = inner
  stranded : (∀ payload, inner ≠ .unwound payload) → ∀ errno, report = .failed errno →
    outcome = .failed (OfError.ofError (.switchFailed .restore (.os errno.byName)))

/-- The first call after the code is the one that moves its thread back by the handle that the
code was given, and it decides the outcome. -/
theorem leave_decided {home : Handle} {origin : Descriptor} {inner : Outcome π ε α}
    (owns : home.descriptor? = some origin) (leaving : leave home inner before = (outcome, after)) :
    ∃ report, before.kernel.trace ++ [⟨.setns origin (before.kernel.network? origin), report⟩] <+:
        after.kernel.trace ∧ Decided report inner outcome := by
  obtain ⟨restored, returns, rfl⟩ := leave_returns owns leaving
  cases returns with
  | back location there thread moved =>
      refine ⟨.ok, by rwa [there], .inl rfl, ?_, ?_, ?_⟩
      · intro payload unwound
        rw [unwound]
        rfl
      · intro calm _
        cases inner with
        | unwound payload => exact absurd rfl (calm payload)
        | _ => rfl
      · intro _ errno failed
        cases failed
  | stranded errno thread failed =>
      refine ⟨.failed errno, failed, .inr ⟨errno, rfl⟩, ?_, ?_, ?_⟩
      · intro payload unwound
        rw [unwound]
        rfl
      · intro _ moved
        cases moved
      · intro calm _ same
        cases same
        cases inner with
        | unwound payload => exact absurd rfl (calm payload)
        | _ => rfl

/-- What a visit has to do with the switch that it was part of: its thread is where the
destination's descriptor says, its handle is of where the thread was, and going back by that
handle decides what the switch comes to. -/
structure Visit.PartOf (visit : Visit π ε α) (destination : Handle) (machine : Machine)
    (outcome : Outcome π ε α) (after : Machine) : Prop where
  there : ∃ target, destination.descriptor? = some target ∧
    visit.start.kernel.network? target = some visit.start.thread.location
  back : ∃ origin, visit.home.descriptor? = some origin ∧
    visit.start.kernel.network? origin = some machine.thread.location ∧
    ∃ report, visit.finish.kernel.trace ++
        [⟨.setns origin (visit.finish.kernel.network? origin), report⟩] <+: after.kernel.trace ∧
      Decided report visit.outcome outcome

/-- What a switch promises.  Its code runs at most once, and once exactly if the thread enters;
if it does not run, the switch fails and nothing becomes of what the code looks after. -/
def Faithful (destination : Handle) (body : Body σ π ε α) (machine : Machine) (own : σ) : Prop :=
  ∃ outcome after rest visits,
    run destination body (machine, own) = (outcome, after, rest) ∧
    run destination body.noted (machine, own, []) = (outcome, after, rest, visits) ∧
    visits.length ≤ 1 ∧
    (visits ≠ [] ↔ Enters destination machine) ∧
    (visits = [] → ∃ e, outcome = .failed (OfError.ofError e) ∧ rest = own) ∧
    ∀ visit ∈ visits, visit.PartOf destination machine outcome after ∧
      body visit.home (visit.start, own) = (visit.outcome, visit.finish, rest)

/-- Every switch keeps its promise, whatever its code does. -/
theorem run_faithful (destination : Handle) (body : Body σ π ε α) (machine : Machine) (own : σ)
    (resolves : machine.kernel.ResolvesOwn) : Faithful destination body machine own := by
  cases ran : run destination body (machine, own) with
  | mk outcome left =>
      obtain ⟨after, rest⟩ := left
      rcases run_noted ran with
        ⟨noted, e, entering, rfl, rfl⟩ | ⟨visit, noted, entering, ranBody, leaving⟩
      · refine ⟨_, _, _, [], ran, noted, Nat.zero_le _, ?_, fun _ => ⟨e, rfl, rfl⟩, by simp⟩
        refine iff_of_false (by simp) fun enters => ?_
        obtain ⟨home, entered, instead⟩ := enters_iff.mp enters
        cases entering.symm.trans instead
      · refine ⟨_, _, _, [visit], ran, noted, Nat.le_refl _, ?_, by simp, ?_⟩
        · exact iff_of_true (by simp) (enters_iff.mpr ⟨_, _, entering⟩)
        · obtain ⟨target, origin, location, entered⟩ := enter_entered entering
          simp only [List.mem_singleton, forall_eq]
          refine ⟨⟨⟨target, entered.aims, ?_⟩, origin, entered.owns, entered.origin resolves, ?_⟩,
            ranBody⟩
          · rw [entered.there, entered.thread]
          · exact leave_decided entered.owns leaving

/-- A host on which a second namespace is open, and on which the second move of a thread
fails. -/
def stranding : Machine :=
  { Machine.host with
    kernel := (Machine.host.kernel.allocate (.namespaceFile { target := .network "pod" })).2.arm
      { kind := .setns, errno := .notPermitted, skip := 1 } }

theorem run_faithful_stranding :
    stranding.kernel.ResolvesOwn ∧
      (run (π := Empty) ⟨some ⟨1⟩, ⟨7⟩, []⟩ (fun _ => pure (.failed Error.reentrant : Outcome _ _ Unit))
        (stranding, ())).1 = .failed (.switchFailed .restore (.os .notPermitted)) ∧
      Faithful (π := Empty) ⟨some ⟨1⟩, ⟨7⟩, []⟩
        (fun _ => pure (.failed Error.reentrant : Outcome _ _ Unit)) stranding () :=
  ⟨.of_absent rfl, rfl, run_faithful _ _ _ _ (.of_absent rfl)⟩

end NetSwitch.Switch
