import NetSwitch.Proofs.Identity
import NetSwitch.Proofs.Switch.Closing
import NetSwitch.Proofs.Switch.Course
import NetSwitch.Proofs.Switch.Ownership

/-! Where the code of a switch begins, and what becomes of the machine after it.

An `Arrival` is the state in which code is run, with the handles that its switch holds meanwhile.
`Goes` splits every way of running code into what leads there, the code, and what is done once it
has ended.
-/

namespace NetSwitch.Switch

open Kernel (Descriptor Entry)

/-! ### The calls of a switch that is over -/

section Calls

variable [OfError ε] [Owns α] {outcome : Outcome π ε α}

theorem spawnFor_calls (destination : Handle) : (spawnFor destination).Calls Entry.Aside := by
  refine Op.calls_bind (Op.calls_of_does Syscall.Does.spawn fun _ _ => ⟨rfl, rfl⟩) fun asked => ?_
  rcases asked with errno | ⟨⟩ <;> exact Op.calls_pure _

theorem discard_calls (value : α) : (discard value).Calls fun _ => True :=
  (Handle.dropAll_calls _).mono fun _ _ => trivial

theorem leave_calls (home : Handle) : (leave home outcome).Calls fun _ => True := by
  have going : (restore home).Calls fun _ => True := (restore_calls home).mono fun _ _ => trivial
  cases outcome with
  | unwound payload =>
      exact Op.calls_bind (Op.calls_emit _) fun _ => Op.calls_bind going fun _ => Op.calls_pure _
  | returned value =>
      refine Op.calls_bind going fun restored => ?_
      rcases restored with e | ⟨⟩
      · exact Op.calls_bind (discard_calls value) fun _ => Op.calls_pure _
      · exact Op.calls_pure _
  | failed error =>
      refine Op.calls_bind going fun restored => ?_
      rcases restored with e | ⟨⟩
      · exact Op.calls_bind (Op.calls_emit _) fun _ => Op.calls_pure _
      · exact Op.calls_pure _

theorem closeAfter_calls (handle : Handle) : (closeAfter handle outcome).Calls fun _ => True := by
  have closing : handle.close.Calls fun _ => True := handle.close_calls.mono fun _ _ => trivial
  cases outcome with
  | unwound payload =>
      refine Op.calls_bind (handle.drop_calls.mono fun _ _ => trivial) fun _ => Op.calls_pure _
  | returned value =>
      refine Op.calls_bind closing fun closed => ?_
      rcases closed with e | ⟨⟩
      · exact Op.calls_bind (discard_calls value) fun _ => Op.calls_pure _
      · exact Op.calls_pure _
  | failed error => exact Op.calls_bind closing fun closed => Op.calls_pure _

end Calls

/-! ### Arrivals -/

/-- Where the code of a switch begins: the handle that it is given, what else is held for as long as
it runs, and the machine that it finds. -/
structure Arrival where
  home : Handle
  more : List Handle
  machine : Machine

def Arrival.handles (arrival : Arrival) : List Handle :=
  arrival.home :: arrival.more

/-- Where a switch of the running thread leads. -/
def arrive (destination : Handle) (more : List Handle) (machine : Machine) : Option Arrival :=
  match enter destination machine with
  | (.error _, _) => none
  | (.ok home, there) => some ⟨home, more, there⟩

def arriveOnWorker (destination : Handle) (machine : Machine) : Option Arrival :=
  match spawnFor destination machine with
  | (.error _, _) => none
  | (.ok (), ready) => arrive destination [] { ready with thread := ready.thread.spawned }

def arriveDetached (destination : Handle) (machine : Machine) : Option Arrival :=
  match destination.duplicate machine with
  | (.error _, _) => none
  | (.ok copy, copied) =>
      match spawnFor destination copied with
      | (.error _, _) => none
      | (.ok (), ready) => arrive copy [copy] { ready with thread := ready.thread.spawned }

def arriveAtPath (path : Path) (machine : Machine) : Option Arrival :=
  match Handle.openPath path machine with
  | (.error _, _) => none
  | (.ok destination, opened) => arrive destination [destination] opened

/-- What leads to an arrival opens the handles that are held there. -/
structure Arrives (before : Machine) (arrival : Arrival) : Prop where
  accounts : ∀ {origin : Kernel} {foreign handles}, origin.Accounts foreign handles before.kernel →
    origin.Accounts foreign (arrival.handles ++ handles) arrival.machine.kernel
  inode : arrival.machine.kernel.inode = before.kernel.inode
  genuine : ∀ handle ∈ arrival.handles, handle.Genuine arrival.machine.kernel

/-- What is done after code has come to `inner` gives up the handles that were held for it, and those
that are not handed on. -/
structure Departs [Owns α] (arrival : Arrival) (left after : Machine) (inner outcome : Outcome π ε α) :
    Prop where
  accounts : ∀ {origin : Kernel} {foreign handles},
    origin.Accounts foreign (arrival.handles ++ (Owns.handles inner ++ handles)) left.kernel →
    origin.Accounts foreign (Owns.handles outcome ++ handles) after.kernel
  inode : after.kernel.inode = left.kernel.inode
  yields : Owns.handles outcome ⊆ Owns.handles inner

/-- How a way of running code goes: the code is not reached, or it is run on arrival. -/
inductive Goes [Owns α] (body : Body σ π ε α) (before : Machine) (own : σ) (after : Machine)
    (rest : σ) (outcome : Outcome π ε α) : Option Arrival → Prop where
  | refused (inode : after.kernel.inode = before.kernel.inode) (same : rest = own)
      (empty : Owns.handles outcome = []) : Goes body before own after rest outcome none
  | made (arrival : Arrival) (inner : Outcome π ε α) (left : Machine) (arrives : Arrives before arrival)
      (ran : body arrival.home (arrival.machine, own) = (inner, left, rest))
      (departs : Departs arrival left after inner outcome) :
      Goes body before own after rest outcome (some arrival)

section Ways

variable {before after middle : Machine} {destination home handle : Handle} {path : Path}
variable {more : List Handle}

/-- Entering a namespace takes nothing from the handles that there are. -/
theorem enter_genuine (ran : enter destination before = (.ok home, after))
    (genuine : handle.Genuine before.kernel) : handle.Genuine after.kernel := by
  obtain ⟨target, own, location, entered⟩ := enter_entered ran
  obtain ⟨object, descriptors⟩ := entered.descriptors
  refine genuine.mono entered.kernel ((enter_calls destination).inode ran) ?_
  intro descriptor owned
  rw [Kernel.opened, descriptors, List.map_append]
  exact List.mem_append_left _ (genuine.backed descriptor owned)

/-- The handle of where a thread came from has the identity of that namespace. -/
theorem enter_home_genuine (ran : enter destination before = (.ok home, after)) :
    home.Genuine after.kernel := by
  obtain ⟨idle, target, opened, moved, -, opening, moving, rfl⟩ := enter_ok_iff.mp ran
  obtain ⟨-, descriptors, -, -, -⟩ := Syscall.setns_ran moving
  intro own owned
  obtain ⟨file, found, identity⟩ := Handle.openPath_genuine opening own owned
  refine ⟨file, ?_, ?_⟩
  · change moved.kernel.object? own = _
    rw [Kernel.object?, descriptors, ← Kernel.object?, found]
  · rw [identity]
    exact congrFun ((setns_calls target).inode moving).symm _

/-- An arrival after handles have been opened for it. -/
theorem enter_arrives {ready : Machine}
    (opens : ∀ {origin : Kernel} {foreign handles}, origin.Accounts foreign handles before.kernel →
      origin.Accounts foreign (more ++ handles) ready.kernel)
    (inode : ready.kernel.inode = before.kernel.inode)
    (genuine : ∀ handle ∈ more, handle.Genuine ready.kernel)
    (aim : destination.Genuine ready.kernel)
    (ran : enter destination ready = (.ok home, after)) : Arrives before ⟨home, more, after⟩ where
  accounts accounts := enter_accounts (opens accounts) aim.backed ran
  inode := ((enter_calls destination).inode ran).trans inode
  genuine handle member := by
    rcases List.mem_cons.mp member with rfl | held
    · exact enter_home_genuine ran
    · exact enter_genuine ran (genuine handle held)

variable [OfError ε] [Owns α] {inner outcome settled : Outcome π ε α}

theorem settle_yields {restored : Except Error Unit} :
    Owns.handles (settle outcome restored) ⊆ Owns.handles outcome := by
  rcases outcome with value | error | payload <;> rcases restored with e | ⟨⟩
  case returned.error => exact List.nil_subset _
  all_goals exact List.Subset.refl _

theorem leave_departs {arrived : Machine} (ran : leave home inner before = (outcome, after)) :
    Departs ⟨home, [], arrived⟩ before after inner outcome where
  accounts accounts := leave_accounts accounts ran
  inode := (leave_calls home).inode ran
  yields := by
    obtain ⟨-, -, restored, -, -, -, rfl, -⟩ := leave_ran ran
    exact settle_yields

theorem closeAfter_yields (ran : closeAfter handle outcome before = (settled, after)) :
    Owns.handles settled ⊆ Owns.handles outcome := by
  rcases closeAfter_ran ran with ⟨payload, -, rfl, -⟩ | ⟨value, e, last, -, -, -, rfl⟩ | ⟨closed, -, rfl⟩
  · exact List.Subset.refl _
  · exact List.nil_subset _
  · exact List.Subset.refl _

/-- A handle that was held for a switch is closed when the thread is back. -/
theorem leave_close_departs {arrived : Machine} (leaving : leave home inner before = (settled, middle))
    (closing : closeAfter handle settled middle = (outcome, after)) :
    Departs ⟨home, [handle], arrived⟩ before after inner outcome where
  accounts := by
    intro origin foreign handles accounts
    have held : origin.Accounts foreign (home :: handle :: (Owns.handles inner ++ handles))
        before.kernel := accounts
    have left := leave_accounts (held.perm (List.perm_middle.symm.cons home)) leaving
    exact closeAfter_accounts (left.perm List.perm_middle) closing
  inode := ((closeAfter_calls handle).inode closing).trans ((leave_calls home).inode leaving)
  yields := by
    have back : Departs ⟨home, [], arrived⟩ before middle inner settled := leave_departs leaving
    exact List.Subset.trans (closeAfter_yields closing) back.yields

end Ways

/-! ### Ways of running code -/

section Runs

variable [OfError ε] [Owns α] {destination : Handle} {path : Path} {body : Body σ π ε α}
variable {before after : Machine} {own rest : σ} {outcome : Outcome π ε α}

theorem run_goes (genuine : destination.Genuine before.kernel)
    (ran : run destination body (before, own) = (outcome, after, rest)) :
    Goes body before own after rest outcome (arrive destination [] before) := by
  rcases run_ran.mp ran with
    ⟨e, entering, rfl, rfl⟩ | ⟨home, entered, inner, left, entering, ranBody, leaving⟩
  · simp only [arrive, entering]
    exact .refused ((enter_calls destination).inode entering) rfl rfl
  · simp only [arrive, entering]
    exact .made _ inner left (enter_arrives id rfl (by simp) genuine entering) ranBody
      (leave_departs leaving)

theorem runOnWorker_goes (genuine : destination.Genuine before.kernel)
    (ran : runOnWorker destination body (before, own) = (outcome, after, rest)) :
    Goes body before own after rest outcome (arriveOnWorker destination before) := by
  rcases runOnWorker_ran.mp ran with
    ⟨e, spawning, rfl, rfl⟩ | ⟨ready, worker, spawning, ranRun, rfl⟩
  · simp only [arriveOnWorker, spawning]
    exact .refused ((spawnFor_calls destination).inode spawning) rfl rfl
  · have quiet := spawnFor_quiet spawning
    have inode := (spawnFor_calls destination).inode spawning
    have aim : destination.Genuine ready.kernel :=
      genuine.mono quiet.kernel inode (genuine.backed.of_quiet quiet)
    simp only [arriveOnWorker, spawning]
    rcases run_ran.mp ranRun with
      ⟨e, entering, rfl, rfl⟩ | ⟨home, entered, inner, left, entering, ranBody, leaving⟩
    · simp only [arrive, entering]
      exact .refused (((enter_calls destination).inode entering).trans inode) rfl rfl
    · simp only [arrive, entering]
      have departs : Departs ⟨home, [], entered⟩ left worker inner outcome := leave_departs leaving
      have arrives : Arrives before ⟨home, [], entered⟩ := by
        refine enter_arrives ?_ ?_ (by simp) ?_ entering
        · intro origin foreign handles accounts
          have kept := accounts.of_quiet quiet
          exact kept
        · exact inode
        · exact aim
      exact .made _ inner left arrives ranBody ⟨departs.accounts, departs.inode, departs.yields⟩

theorem runDetached_goes (genuine : destination.Genuine before.kernel)
    (ran : runDetached destination body (before, own) = (outcome, after, rest)) :
    Goes body before own after rest outcome (arriveDetached destination before) := by
  rcases runDetached_ran.mp ran with ⟨e, copying, rfl, rfl⟩ |
    ⟨copy, copied, e, spawned, copying, spawning, dropping, rfl, rfl⟩ |
    ⟨copy, copied, ready, inner, left, closing, worker, copying, spawning, ranRun, ranClose, rfl, rfl⟩
  · simp only [arriveDetached, copying]
    exact .refused ((Handle.duplicate_calls destination).inode copying) rfl rfl
  · simp only [arriveDetached, copying, spawning]
    refine .refused ?_ rfl rfl
    calc after.kernel.inode
      _ = spawned.kernel.inode := copy.drop_calls.inode dropping
      _ = copied.kernel.inode := (spawnFor_calls destination).inode spawning
      _ = before.kernel.inode := (Handle.duplicate_calls destination).inode copying
  · have quiet := spawnFor_quiet spawning
    have inode : ready.kernel.inode = before.kernel.inode :=
      ((spawnFor_calls destination).inode spawning).trans ((Handle.duplicate_calls destination).inode copying)
    have made := Handle.duplicate_genuine genuine copying
    have aim : copy.Genuine ready.kernel :=
      made.mono quiet.kernel ((spawnFor_calls destination).inode spawning) (made.backed.of_quiet quiet)
    simp only [arriveDetached, copying, spawning]
    rcases run_ran.mp ranRun with
      ⟨e, entering, rfl, rfl⟩ | ⟨home, entered, result, gone, entering, ranBody, leaving⟩
    · simp only [arrive, entering]
      have empty : Owns.handles closing = [] := List.subset_nil.mp (closeAfter_yields ranClose)
      refine .refused ?_ rfl (report_handles.trans empty)
      exact ((closeAfter_calls copy).inode ranClose).trans (((enter_calls copy).inode entering).trans inode)
    · simp only [arrive, entering]
      have departs : Departs ⟨home, [copy], entered⟩ gone worker result closing :=
        leave_close_departs leaving ranClose
      have arrives : Arrives before ⟨home, [copy], entered⟩ := by
        refine enter_arrives ?_ ?_ (List.forall_mem_singleton.mpr ?_) ?_ entering
        · intro origin foreign handles accounts
          have kept := (Handle.duplicate_accounts accounts genuine.backed copying).of_quiet quiet
          exact kept
        · exact inode
        · exact aim
        · exact aim
      refine .made _ result gone arrives ranBody ⟨fun accounts => ?_, departs.inode, ?_⟩
      · rw [report_handles]
        exact departs.accounts accounts
      · rw [report_handles]
        exact departs.yields

theorem runAtPath_goes (ran : runAtPath path body (before, own) = (outcome, after, rest)) :
    Goes body before own after rest outcome (arriveAtPath path before) := by
  rcases runAtPath_ran.mp ran with
    ⟨e, opening, rfl, rfl⟩ | ⟨destination, opened, inner, left, opening, ranRun, closing⟩
  · simp only [arriveAtPath, opening]
    exact .refused ((Handle.openPath_calls path).inode opening) rfl rfl
  · have inode := (Handle.openPath_calls path).inode opening
    have aim := Handle.openPath_genuine opening
    simp only [arriveAtPath, opening]
    rcases run_ran.mp ranRun with
      ⟨e, entering, rfl, rfl⟩ | ⟨home, entered, result, gone, entering, ranBody, leaving⟩
    · simp only [arrive, entering]
      have empty : Owns.handles outcome = [] := List.subset_nil.mp (closeAfter_yields closing)
      refine .refused ?_ rfl empty
      exact ((closeAfter_calls destination).inode closing).trans
        (((enter_calls destination).inode entering).trans inode)
    · simp only [arrive, entering]
      refine .made _ result gone (enter_arrives (fun accounts => ?_) inode ?_ aim entering) ranBody
        (leave_close_departs leaving closing)
      · exact Handle.openPath_accounts accounts opening
      · exact List.forall_mem_singleton.mpr aim

end Runs

end NetSwitch.Switch
