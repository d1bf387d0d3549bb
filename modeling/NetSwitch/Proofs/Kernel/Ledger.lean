import NetSwitch.Kernel

/-! The descriptors that a trace accounts for.

A ledger says which descriptors are open and how many have been made.  Replaying a
trace brings it up to date and refuses a trace in which a call names a descriptor
that is not open, or is given one that has been given out before.  A replay that
succeeds therefore settles, from the trace alone, how often a descriptor is closed
and that nothing is done with it afterwards.
-/

namespace NetSwitch.Kernel

/-- The descriptor that a call is made on. -/
def Call.descriptor? : Call → Option Descriptor
  | .openFile _ => none
  | .fstatfs descriptor => some descriptor
  | .nstype descriptor => some descriptor
  | .fstat descriptor => some descriptor
  | .stat _ => none
  | .dup descriptor => some descriptor
  | .close descriptor => some descriptor
  | .setns descriptor _ => some descriptor
  | .socket => none
  | .getFlags descriptor _ => some descriptor
  | .setFlags descriptor _ _ => some descriptor
  | .spawn => none

/-- Whether an entry closes a descriptor, whatever the call answered. -/
def Entry.closes (entry : Entry) (descriptor : Descriptor) : Bool :=
  entry.call = .close descriptor

/-- The descriptors that are open and how many have been made. -/
structure Ledger where
  opened : List Descriptor
  made : Nat
deriving DecidableEq, Repr

namespace Ledger

def enter (ledger : Ledger) (entry : Entry) : Option Ledger :=
  match entry.call, entry.report with
  | .close _, .made _ => none
  | .close descriptor, _ =>
      some { ledger with opened := ledger.opened.filter (· ≠ descriptor) }
  | _, .made descriptor =>
      if descriptor.number = ledger.made + 1 then
        some ⟨ledger.opened ++ [descriptor], ledger.made + 1⟩
      else none
  | _, _ => some ledger

/-- The ledger after a call, which must be made on an open descriptor if on any. -/
def step (ledger : Ledger) (entry : Entry) : Option Ledger :=
  if ∀ descriptor ∈ entry.call.descriptor?, descriptor ∈ ledger.opened then ledger.enter entry
  else none

def replay (ledger : Ledger) : List Entry → Option Ledger
  | [] => some ledger
  | entry :: rest => (ledger.step entry).bind fun next => next.replay rest

/-- Open descriptors are numbered up to the count of those made. -/
def Bounded (ledger : Ledger) : Prop :=
  ∀ descriptor ∈ ledger.opened, descriptor.number ≤ ledger.made

variable {ledger next after : Ledger} {entry : Entry} {entries rest : List Entry}
variable {descriptor : Descriptor}

theorem replay_append :
    ledger.replay (entries ++ rest) = (ledger.replay entries).bind fun next => next.replay rest := by
  induction entries generalizing ledger with
  | nil => rfl
  | cons entry entries ih =>
      cases stepped : ledger.step entry with
      | none => simp only [List.cons_append, replay, stepped, Option.bind_none]
      | some next => simp only [List.cons_append, replay, stepped, Option.bind_some, ih]

theorem replay_trans (first : ledger.replay entries = some next)
    (second : next.replay rest = some after) : ledger.replay (entries ++ rest) = some after := by
  rw [replay_append, first, Option.bind_some, second]

theorem replay_singleton : ledger.replay [entry] = ledger.step entry := by
  simp only [replay, Option.bind_fun_some]

theorem enter_quiet {call : Call} {report : Report} (notClosing : ∀ other, call ≠ .close other)
    (silent : ∀ other, report ≠ .made other) : ledger.enter ⟨call, report⟩ = some ledger := by
  cases report with
  | made other => exact absurd rfl (silent other)
  | _ =>
      cases call with
      | close other => exact absurd rfl (notClosing other)
      | _ => rfl

theorem enter_made {call : Call} (notClosing : ∀ other, call ≠ .close other) :
    ledger.enter ⟨call, .made ⟨ledger.made + 1⟩⟩ =
      some ⟨ledger.opened ++ [⟨ledger.made + 1⟩], ledger.made + 1⟩ := by
  cases call with
  | close other => exact absurd rfl (notClosing other)
  | _ => exact if_pos rfl

theorem enter_closed {report : Report} (silent : ∀ other, report ≠ .made other) :
    ledger.enter ⟨.close descriptor, report⟩ =
      some { ledger with opened := ledger.opened.filter (· ≠ descriptor) } := by
  cases report with
  | made other => exact absurd rfl (silent other)
  | _ => rfl

/-- What a step can do: close a descriptor that is open, give out a new one, or leave
the ledger as it is. -/
theorem step_cases (stepped : ledger.step entry = some next) :
    (∀ descriptor ∈ entry.call.descriptor?, descriptor ∈ ledger.opened) ∧
      ((∃ closed, entry.call = .close closed ∧ (∀ other, entry.report ≠ .made other) ∧
          next = { ledger with opened := ledger.opened.filter (· ≠ closed) }) ∨
        (∃ made, (∀ other, entry.call ≠ .close other) ∧ entry.report = .made made ∧
          made.number = ledger.made + 1 ∧ next = ⟨ledger.opened ++ [made], ledger.made + 1⟩) ∨
        (∀ other, entry.call ≠ .close other) ∧ (∀ other, entry.report ≠ .made other) ∧
          next = ledger) := by
  unfold step at stepped
  split at stepped
  · rename_i allowed
    refine ⟨allowed, ?_⟩
    unfold enter at stepped
    split at stepped
    · contradiction
    · rename_i closed closing silent
      exact .inl ⟨closed, closing, silent, (Option.some.inj stepped).symm⟩
    · rename_i made making notClosing
      split at stepped
      · rename_i fresh
        exact .inr (.inl ⟨made, notClosing, making, fresh, (Option.some.inj stepped).symm⟩)
      · contradiction
    · rename_i notClosing silent _
      exact .inr (.inr ⟨notClosing, silent, (Option.some.inj stepped).symm⟩)
  · contradiction

theorem step_bounded (bounded : ledger.Bounded) (stepped : ledger.step entry = some next) :
    next.Bounded ∧ ledger.made ≤ next.made := by
  obtain ⟨-, ⟨closed, -, -, rfl⟩ | ⟨made, -, -, number, rfl⟩ | ⟨-, -, rfl⟩⟩ := step_cases stepped
  · exact ⟨fun other member => bounded other (List.mem_filter.mp member).1, Nat.le_refl _⟩
  · refine ⟨fun other member => ?_, Nat.le_succ _⟩
    rcases List.mem_append.mp member with older | fresh
    · exact Nat.le_succ_of_le (bounded other older)
    · exact Nat.le_of_eq (by rw [List.mem_singleton.mp fresh, number])
  · exact ⟨bounded, Nat.le_refl _⟩

/-- A descriptor that was made earlier and is not open any more is neither named nor
given out again. -/
theorem replay_gone (bounded : ledger.Bounded) (replayed : ledger.replay entries = some after)
    (older : descriptor.number ≤ ledger.made) (gone : descriptor ∉ ledger.opened) :
    descriptor ∉ after.opened ∧
      ∀ entry ∈ entries, entry.call.descriptor? ≠ some descriptor ∧
        entry.report ≠ .made descriptor := by
  induction entries generalizing ledger with
  | nil =>
      cases replayed
      exact ⟨gone, by simp⟩
  | cons entry rest ih =>
      obtain ⟨next, stepped, continued⟩ := Option.bind_eq_some_iff.mp replayed
      obtain ⟨nextBounded, growing⟩ := step_bounded bounded stepped
      obtain ⟨allowed, effect⟩ := step_cases stepped
      have unnamed : entry.call.descriptor? ≠ some descriptor :=
        fun named => gone (allowed descriptor named)
      have still : descriptor ∉ next.opened ∧ entry.report ≠ .made descriptor := by
        rcases effect with ⟨closed, -, silent, rfl⟩ | ⟨made, -, making, number, rfl⟩ |
          ⟨-, silent, rfl⟩
        · exact ⟨fun member => gone (List.mem_filter.mp member).1, silent descriptor⟩
        · have other : descriptor ≠ made := by
            intro same
            subst same
            omega
          refine ⟨fun member => ?_, fun same => other ?_⟩
          · rcases List.mem_append.mp member with older | fresh
            · exact gone older
            · exact other (List.mem_singleton.mp fresh)
          · exact Report.made.inj (same.symm.trans making)
        · exact ⟨gone, silent descriptor⟩
      obtain ⟨notOpen, silent⟩ :=
        ih nextBounded continued (Nat.le_trans older growing) still.1
      refine ⟨notOpen, ?_⟩
      intro other member
      rcases List.mem_cons.mp member with rfl | later
      · exact ⟨unnamed, still.2⟩
      · exact silent other later

/-- A descriptor that is open at first is not given out, and it is closed once if it is
not open in the end. -/
theorem replay_open (bounded : ledger.Bounded) (replayed : ledger.replay entries = some after)
    (isOpen : descriptor ∈ ledger.opened) :
    (∀ entry ∈ entries, entry.report ≠ .made descriptor) ∧
      entries.countP (·.closes descriptor) = if descriptor ∈ after.opened then 0 else 1 := by
  induction entries generalizing ledger with
  | nil =>
      cases replayed
      simp [isOpen]
  | cons entry rest ih =>
      obtain ⟨next, stepped, continued⟩ := Option.bind_eq_some_iff.mp replayed
      obtain ⟨nextBounded, growing⟩ := step_bounded bounded stepped
      obtain ⟨-, effect⟩ := step_cases stepped
      by_cases closing : entry.call = .close descriptor
      · obtain ⟨closed, call, silent, rfl⟩ | ⟨-, notClosing, -⟩ | ⟨notClosing, -⟩ := effect
        · obtain rfl : closed = descriptor := Call.close.inj (call.symm.trans closing)
          have gone := replay_gone nextBounded continued (bounded closed isOpen) (by simp)
          have later : rest.countP (·.closes closed) = 0 := by
            refine List.countP_eq_zero.mpr fun other member closes => ?_
            refine (gone.2 other member).1 ?_
            rw [of_decide_eq_true closes]
            rfl
          refine ⟨?_, ?_⟩
          · intro other member
            rcases List.mem_cons.mp member with rfl | later
            · exact silent closed
            · exact (gone.2 other later).2
          · rw [List.countP_cons_of_pos (by simpa [Entry.closes] using closing), later,
              if_neg gone.1]
        · exact absurd closing (notClosing descriptor)
        · exact absurd closing (notClosing descriptor)
      · have still : descriptor ∈ next.opened ∧ entry.report ≠ .made descriptor := by
          rcases effect with ⟨closed, call, silent, rfl⟩ | ⟨made, -, making, number, rfl⟩ |
            ⟨-, silent, rfl⟩
          · have other : descriptor ≠ closed := by
              intro same
              subst same
              exact closing call
            exact ⟨List.mem_filter.mpr ⟨isOpen, by simpa using other⟩, silent descriptor⟩
          · refine ⟨List.mem_append_left _ isOpen, fun same => ?_⟩
            have older := bounded descriptor isOpen
            rw [Report.made.inj (same.symm.trans making)] at older
            omega
          · exact ⟨isOpen, silent descriptor⟩
        obtain ⟨silent, closings⟩ := ih nextBounded continued still.1
        refine ⟨?_, ?_⟩
        · intro other member
          rcases List.mem_cons.mp member with rfl | later
          · exact still.2
          · exact silent other later
        · simp [Entry.closes, closing] at closings ⊢
          exact closings

/-- A descriptor that a trace gives out is closed once in it if it is not open in the
end, and not at all if it is. -/
theorem replay_made (bounded : ledger.Bounded) (replayed : ledger.replay entries = some after)
    (made : ∃ entry ∈ entries, entry.report = .made descriptor) :
    entries.countP (·.closes descriptor) = if descriptor ∈ after.opened then 0 else 1 := by
  induction entries generalizing ledger with
  | nil => simp at made
  | cons entry rest ih =>
      obtain ⟨next, stepped, continued⟩ := Option.bind_eq_some_iff.mp replayed
      obtain ⟨nextBounded, -⟩ := step_bounded bounded stepped
      obtain ⟨allowed, effect⟩ := step_cases stepped
      have unclosed : entry.call = .close descriptor → descriptor ∈ ledger.opened := fun closing =>
        allowed descriptor (by rw [closing]; rfl)
      by_cases isOpen : descriptor ∈ ledger.opened
      · exact (replay_open bounded replayed isOpen).2
      · have notClosing : entry.closes descriptor = false :=
          decide_eq_false fun closing => isOpen (unclosed closing)
        rw [List.countP_cons_of_neg (by simp [notClosing])]
        obtain ⟨other, member, making⟩ := made
        rcases List.mem_cons.mp member with rfl | later
        · rcases effect with ⟨-, -, silent, -⟩ | ⟨fresh, -, report, -, rfl⟩ | ⟨-, silent, -⟩
          · exact absurd making (silent descriptor)
          · obtain rfl := Report.made.inj (making.symm.trans report)
            exact (replay_open nextBounded continued (by simp)).2
          · exact absurd making (silent descriptor)
        · exact ih nextBounded continued ⟨other, later, making⟩

/-- After a descriptor has been closed, no call names it and none gives it out again. -/
theorem replay_closed (bounded : ledger.Bounded)
    (replayed : ledger.replay (entries ++ entry :: rest) = some after)
    (closing : entry.call = .close descriptor) :
    ∀ later ∈ rest, later.call.descriptor? ≠ some descriptor ∧ later.report ≠ .made descriptor := by
  induction entries generalizing ledger with
  | nil =>
      obtain ⟨next, stepped, continued⟩ := Option.bind_eq_some_iff.mp replayed
      obtain ⟨nextBounded, -⟩ := step_bounded bounded stepped
      obtain ⟨allowed, ⟨closed, call, -, rfl⟩ | ⟨-, notClosing, -⟩ | ⟨notClosing, -⟩⟩ :=
        step_cases stepped
      · obtain rfl : closed = descriptor := Call.close.inj (call.symm.trans closing)
        have isOpen := allowed closed (by rw [call]; rfl)
        exact (replay_gone nextBounded continued (bounded closed isOpen) (by simp)).2
      · exact absurd closing (notClosing descriptor)
      · exact absurd closing (notClosing descriptor)
  | cons first entries ih =>
      obtain ⟨next, stepped, continued⟩ := Option.bind_eq_some_iff.mp replayed
      exact ih (step_bounded bounded stepped).1 continued

end Ledger

end NetSwitch.Kernel
