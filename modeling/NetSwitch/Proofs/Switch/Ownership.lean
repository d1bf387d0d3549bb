import NetSwitch.Proofs.Ownership
import NetSwitch.Proofs.Switch.Run

/-! Switches give back every descriptor that they take: whatever way they are left in, what
they have opened is closed again, and of the handles that their code was given or has
returned none is forgotten. -/

namespace NetSwitch.Switch

open Kernel (Descriptor)

section Halves

variable {origin : Kernel} {foreign : List Descriptor} {handles : List Handle}
variable {before after : Machine} {destination home handle : Handle}

theorem closeHome_accounts (accounts : origin.Accounts foreign (home :: handles) before.kernel)
    (ran : closeHome home before = ((), after)) : origin.Accounts foreign handles after.kernel :=
  accounts.of_without (closeHome_works (accounts.backed (List.mem_cons_self ..)) ran)

theorem enter_accounts {answer : Except Error Handle}
    (accounts : origin.Accounts foreign handles before.kernel)
    (backed : destination.Backed before.kernel) (ran : enter destination before = (answer, after)) :
    origin.Accounts foreign (Owns.handles answer ++ handles) after.kernel := by
  rcases answer with e | home
  · exact accounts.of_quiet ((enter_error ran).quiet backed)
  · obtain ⟨target, own, location, entered⟩ := enter_entered ran
    obtain ⟨object, descriptors⟩ := entered.descriptors
    have joined : Handle.descriptors (home :: handles) = own :: Handle.descriptors handles :=
      List.filterMap_cons_some entered.owns
    refine ⟨accounts.grown.trans entered.kernel, ?_⟩
    change after.kernel.opened.Perm (foreign ++ Handle.descriptors (home :: handles))
    rw [joined, Kernel.opened, descriptors, List.map_append]
    exact (accounts.opened.append_right _).trans ((List.perm_append_singleton ..).trans
      List.perm_middle.symm)

/-- Going back gives up the handle of where the thread was, however the move back goes. -/
theorem restore_accounts {restored : Except Error Unit}
    (accounts : origin.Accounts foreign (home :: handles) before.kernel)
    (ran : restore home before = (restored, after)) :
    origin.Accounts foreign handles after.kernel := by
  obtain ⟨moved, marked, noted, event, moving, kernel, -, noting, closing⟩ := restore_ran ran
  have kept : origin.Accounts foreign (home :: handles) moved.kernel := by
    rcases moveBack_ran moving with ⟨-, rfl, -⟩ | ⟨own, report, owns, ranSetns, -⟩
    · exact accounts
    · have isOpen := accounts.backed (List.mem_cons_self ..) own owns
      exact accounts.of_tables (Syscall.setns_ran ranSetns).2.1 (Syscall.setns_extends isOpen ranSetns)
  rw [← kernel] at kept
  exact closeHome_accounts (kept.of_quiet (Op.emit_ran noting)) closing

/-- Of a value that was returned, the handles are handed on or given up. -/
theorem leave_accounts [OfError ε] [Owns α] {outcome settled : Outcome π ε α}
    (accounts : origin.Accounts foreign (home :: (Owns.handles outcome ++ handles)) before.kernel)
    (ran : leave home outcome before = (settled, after)) :
    origin.Accounts foreign (Owns.handles settled ++ handles) after.kernel := by
  obtain ⟨noted, back, restored, kernel, -, restoring, rfl, rest⟩ := leave_ran ran
  rw [← kernel] at accounts
  have gone := restore_accounts accounts restoring
  rcases outcome with value | error | payload
  · rcases restored with e | ⟨⟩
    · exact discard_accounts gone rest
    · exact gone.of_quiet rest
  · rcases restored with e | ⟨⟩ <;> exact gone.of_quiet rest
  · exact gone.of_quiet rest

theorem closeAfter_accounts [OfError ε] [Owns α] {outcome settled : Outcome π ε α}
    (accounts : origin.Accounts foreign (handle :: (Owns.handles outcome ++ handles)) before.kernel)
    (ran : closeAfter handle outcome before = (settled, after)) :
    origin.Accounts foreign (Owns.handles settled ++ handles) after.kernel := by
  rcases closeAfter_ran ran with ⟨payload, -, rfl, dropping⟩ |
    ⟨value, e, middle, rfl, closing, discarding, rfl⟩ | ⟨closed, closing, rfl⟩
  · exact Handle.drop_accounts accounts dropping
  · exact discard_accounts (Handle.close_accounts accounts closing) discarding
  · exact Handle.close_accounts accounts closing

theorem spawnFor_quiet {answer : Except Error Unit}
    (ran : spawnFor destination before = (answer, after)) : before.Quiet after := by
  obtain ⟨spawned, middle, ranSpawn, ranRest⟩ := Op.bind_ran.mp ran
  have quiet := Syscall.spawn_quiet ranSpawn
  rcases spawned with errno | ⟨⟩ <;> cases ranRest <;> exact quiet

theorem report_handles [OfError ε] [Owns α] {outcome : Outcome π ε α} :
    Owns.handles (report outcome) = Owns.handles outcome := by
  cases outcome <;> rfl

end Halves

/-! ### Ways of running code -/

/-- Code that accounts for the handles that it makes and gives up.  It may own some from the
start, and it leaves alone the handle that it is given and those that others hold. -/
def Body.Accountable [Owns σ] [Owns α] (body : Body σ π ε α) (held : List Handle) : Prop :=
  ∀ {origin foreign home before own outcome after rest},
    Kernel.Accounts origin foreign (home :: (held ++ Owns.handles own)) before.kernel →
    body home (before, own) = (outcome, after, rest) →
    Kernel.Accounts origin foreign
      (Owns.handles outcome ++ home :: (held ++ Owns.handles rest)) after.kernel

variable [OfError ε] [Owns σ] [Owns α] {origin : Kernel} {foreign : List Descriptor}
variable {held : List Handle} {destination : Handle} {path : Path} {body : Body σ π ε α}
variable {before after : Machine} {own rest : σ} {outcome : Outcome π ε α}

theorem run_accounts (accountable : body.Accountable held)
    (accounts : origin.Accounts foreign (held ++ Owns.handles own) before.kernel)
    (backed : destination.Backed before.kernel)
    (ran : run destination body (before, own) = (outcome, after, rest)) :
    origin.Accounts foreign (Owns.handles outcome ++ (held ++ Owns.handles rest)) after.kernel := by
  rcases run_ran.mp ran with
    ⟨e, entering, rfl, rfl⟩ | ⟨home, entered, inner, left, entering, ranBody, leaving⟩
  · exact enter_accounts accounts backed entering
  · have inside := accountable (enter_accounts accounts backed entering) ranBody
    exact leave_accounts (inside.perm List.perm_middle) leaving

theorem runOnWorker_accounts (accountable : body.Accountable held)
    (accounts : origin.Accounts foreign (held ++ Owns.handles own) before.kernel)
    (backed : destination.Backed before.kernel)
    (ran : runOnWorker destination body (before, own) = (outcome, after, rest)) :
    origin.Accounts foreign (Owns.handles outcome ++ (held ++ Owns.handles rest)) after.kernel := by
  rcases runOnWorker_ran.mp ran with
    ⟨e, spawning, rfl, rfl⟩ | ⟨ready, worker, spawning, ranRun, rfl⟩
  · exact accounts.of_quiet (spawnFor_quiet spawning)
  · have quiet := spawnFor_quiet spawning
    have kept := accounts.of_quiet quiet
    have stillBacked := backed.of_quiet quiet
    change origin.Accounts foreign _ worker.kernel
    refine run_accounts accountable ?_ ?_ ranRun
    · exact kept
    · exact stillBacked

theorem runDetached_accounts (accountable : ∀ copy, body.Accountable (copy :: held))
    (accounts : origin.Accounts foreign (held ++ Owns.handles own) before.kernel)
    (backed : destination.Backed before.kernel)
    (ran : runDetached destination body (before, own) = (outcome, after, rest)) :
    origin.Accounts foreign (Owns.handles outcome ++ (held ++ Owns.handles rest)) after.kernel := by
  rcases runDetached_ran.mp ran with ⟨e, copying, rfl, rfl⟩ |
    ⟨copy, copied, e, spawned, copying, spawning, dropping, rfl, rfl⟩ |
    ⟨copy, copied, ready, inner, left, closing, worker, copying, spawning, ranRun, ranClose, rfl, rfl⟩
  · exact Handle.duplicate_accounts accounts backed copying
  · have copied := Handle.duplicate_accounts accounts backed copying
    exact Handle.drop_accounts (copied.of_quiet (spawnFor_quiet spawning)) dropping
  · have copied := Handle.duplicate_accounts accounts backed copying
    have ready := copied.of_quiet (spawnFor_quiet spawning)
    have copyBacked : copy.Backed _ := ready.backed (List.mem_cons_self ..)
    have inside : origin.Accounts foreign
        (Owns.handles inner ++ (copy :: held ++ Owns.handles rest)) left.kernel := by
      refine run_accounts (accountable copy) ?_ ?_ ranRun
      · exact ready
      · exact copyBacked
    have closed := closeAfter_accounts (inside.perm List.perm_middle) ranClose
    rw [report_handles]
    exact closed

theorem runAtPath_accounts (accountable : ∀ destination, body.Accountable (destination :: held))
    (accounts : origin.Accounts foreign (held ++ Owns.handles own) before.kernel)
    (ran : runAtPath path body (before, own) = (outcome, after, rest)) :
    origin.Accounts foreign (Owns.handles outcome ++ (held ++ Owns.handles rest)) after.kernel := by
  rcases runAtPath_ran.mp ran with
    ⟨e, opening, rfl, rfl⟩ | ⟨destination, opened, inner, left, opening, ranRun, closing⟩
  · exact Handle.openPath_accounts accounts opening
  · have opened := Handle.openPath_accounts accounts opening
    have inside := run_accounts (accountable destination) opened
      (opened.backed (List.mem_cons_self ..)) ranRun
    exact closeAfter_accounts (inside.perm List.perm_middle) closing

end NetSwitch.Switch
