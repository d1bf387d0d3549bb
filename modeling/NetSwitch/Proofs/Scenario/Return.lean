import NetSwitch.Proofs.Calm
import NetSwitch.Proofs.Scenario.Succession
import NetSwitch.Proofs.Scenario.Telling
import NetSwitch.Proofs.Switch.Guard

/-! How a thread comes to be tainted: only if it was to go back from a switch and the kernel refused to
move it.

The handle that it is to go back with is open all along.  So where the kernel moves privileged threads
into namespaces, and threads find their own, every thread that keeps its privilege comes back.
-/

namespace NetSwitch

open Kernel (Descriptor)

/-- A handle with a descriptor that the kernel has open. -/
def Handle.Open (handle : Handle) (kernel : Kernel) : Prop :=
  ∃ own, handle.descriptor? = some own ∧ own ∈ kernel.opened

/-- If no fault waits for it, a move is refused to a descriptor of no network namespace and to a thread
without privilege. -/
theorem Syscall.setns_of_unarmed {descriptor : Descriptor} {before : Machine}
    (unarmed : before.kernel.Unarmed .setns) : (Syscall.setns descriptor before).1 =
      match before.kernel.network? descriptor with
      | none => .error .invalidArgument
      | some _ => if before.thread.privileged then .ok () else .error .notPermitted := by
  have asked : before.kernel.Unarmed
      (Kernel.Call.setns descriptor (before.kernel.network? descriptor)).kind := unarmed
  rw [setns, Op.kernel_bind, request_of_unarmed asked]
  cases before.kernel.network? descriptor with
  | none => rfl
  | some location =>
      simp only [Op.thread_bind]
      split <;> rfl

namespace Switch

variable {home : Handle} {own : Descriptor} {before after : Machine}

theorem restore_of_unarmed {restored : Except Error Unit} {location : String}
    (unarmed : before.kernel.Unarmed .setns) (privileged : before.thread.privileged = true)
    (owns : home.descriptor? = some own) (leads : before.kernel.network? own = some location)
    (ran : restore home before = (restored, after)) : restored = .ok () := by
  obtain ⟨report, moved, noted, moving, -, -, rfl⟩ := restore_steps owns ran
  have answered := @Syscall.setns_of_unarmed own before unarmed
  rw [moving, leads] at answered
  simp only [privileged] at answered
  rw [show report = .ok () from answered]
  rfl

end Switch

namespace Scenario

/-- The thread is to go back from the innermost switch, and the kernel refuses to move it to the
namespace of the descriptor that it goes back with. -/
def Moment.Strands (last next : Moment) : Prop :=
  ∃ stay own errno, last.stays = stay :: next.stays ∧ stay.home.descriptor? = some own ∧
    last.machine.kernel.trace ++ [⟨.setns own (last.machine.kernel.network? own), .failed errno⟩] <+:
      next.machine.kernel.trace

/-- A moment at which a thread finds its own namespace, no fault waits for moves of threads, and a thread
that is inside of a switch is privileged. -/
structure Moment.Lenient (moment : Moment) : Prop where
  resolves : moment.machine.kernel.ResolvesOwn
  unarmed : moment.machine.kernel.Unarmed .setns
  privileged : moment.stays ≠ [] → moment.machine.thread.privileged = true

section Steps

variable {birthplace : String} {past : List Moment} {last next : Moment}

/-- Nothing taints a thread but going back in vain. -/
theorem Moment.Leads.untainted_or (leads : last.Leads next)
    (opens : ∀ stay ∈ last.stays, stay.home.Open last.machine.kernel) (untainted : last.Untainted) :
    next.Untainted ∨ ∃ stay own noted back e, last.stays = stay :: next.stays ∧
      stay.home.descriptor? = some own ∧ noted.kernel = last.machine.kernel ∧
      noted.thread = last.machine.thread ∧ Switch.restore stay.home noted = (.error e, back) ∧
      back.Trails next.machine := by
  cases leads with
  | still same unmoved =>
      refine .inl ?_
      rw [Moment.Untainted, unmoved.state]
      exact untainted
  | enters stay within entering =>
      obtain ⟨target, own, location, entered⟩ := Switch.enter_entered entering
      refine .inl ?_
      rw [Moment.Untainted, entered.thread]
      simp
  | leaves stay noted back restored within kernel thread restoring trails =>
      obtain ⟨own, owns, -⟩ := opens stay (within ▸ List.mem_cons_self ..)
      cases Switch.restore_returns owns restoring with
      | back location origin moved =>
          refine .inl ?_
          rw [Moment.Untainted, trails.thread, moved]
          simp
      | stranded errno moved failed =>
          exact .inr ⟨stay, own, noted, back, _, within, owns, kernel, thread, restoring, trails⟩

theorem Moment.Leads.untainted_or_strands (leads : last.Leads next)
    (opens : ∀ stay ∈ last.stays, stay.home.Open last.machine.kernel) (untainted : last.Untainted) :
    next.Untainted ∨ last.Strands next := by
  refine (leads.untainted_or opens untainted).imp_right fun vain => ?_
  obtain ⟨stay, own, noted, back, e, within, owns, kernel, -, restoring, trails⟩ := vain
  cases Switch.restore_returns owns restoring with
  | stranded errno moved failed =>
      rw [kernel] at failed
      exact ⟨stay, own, errno, within, owns, failed.trans trails.trace⟩

/-- A thread that keeps its privilege is moved back to where it began. -/
theorem Moment.Leads.untainted_of_lenient (leads : last.Leads next)
    (opens : ∀ stay ∈ last.stays, stay.home.Open last.machine.kernel)
    (homed : Homed birthplace past last.stays last.machine) (lenient : last.Lenient)
    (untainted : last.Untainted) : next.Untainted := by
  refine (leads.untainted_or opens untainted).resolve_right fun vain => ?_
  obtain ⟨stay, own, noted, back, e, within, owns, kernel, thread, restoring, -⟩ := vain
  cases homed with
  | idle state outside there => cases within.symm.trans outside
  | switched same descriptor state inside owned origin there =>
      obtain ⟨rfl, -⟩ := List.cons.inj (within.symm.trans inside)
      cases owns.symm.trans owned
      have privileged := lenient.privileged (by simp [within])
      rw [← kernel] at origin
      rw [← thread] at privileged
      have unarmed : noted.kernel.Unarmed .setns := kernel ▸ lenient.unarmed
      cases Switch.restore_of_unarmed unarmed privileged owns origin restoring
  | tainted earlier same descriptor errno state => exact untainted state

end Steps

/-! ### Programs -/

section Lives

variable {program : Program V} {machine : Machine} {life : Life} {moment : Moment}

/-- The handles that a thread is to go back with come of the switches that it has entered. -/
theorem Life.Continuous.owns (continuous : life.Continuous) :
    ∀ moment ∈ life.moments, ∀ stay ∈ moment.stays, ∃ own, stay.home.descriptor? = some own := by
  obtain ⟨first, rest, moments, outside, -⟩ := continuous.begins
  refine continuous.leads.induction _ _ ?_ ?_
  · intro last next leads owned
    cases leads with
    | still same unmoved => exact same ▸ owned
    | enters stay within entering =>
        obtain ⟨target, own, location, entered⟩ := Switch.enter_entered entering
        rw [within]
        exact List.forall_mem_cons.mpr ⟨⟨own, entered.owns⟩, owned⟩
    | leaves stay noted back restored within kernel thread restoring trails =>
        rw [within] at owned
        exact (List.forall_mem_cons.mp owned).2
  · intro nonempty
    simp [moments, outside]

theorem Program.lives_accounted (member : life ∈ program.lives machine)
    (within : moment ∈ life.moments) : moment.Accounted machine.kernel machine.kernel.opened := by
  have start : machine.kernel.Accounts machine.kernel.opened ([] ++ Owns.handles (Session.fresh : Session V))
      machine.kernel := .refl machine.kernel
  have inner : ∀ handle ∈ (none : Option Handle), handle ∈ ([] : List Handle) := by simp
  have accounted : (spanning (program.run none) (program.chronicle none) {} (machine, .fresh)).Accounted
      machine.kernel machine.kernel.opened :=
    spanning_accounted rfl start (program.chronicle_accounted inner rfl start)
      (program.run_keeps inner start)
  exact History.every_lives.mpr accounted life member moment within

/-- The handle that a thread is to go back with is open for as long as it is away. -/
theorem Program.lives_open (idle : machine.thread.state = .idle) (member : life ∈ program.lives machine)
    (within : moment ∈ life.moments) :
    ∀ stay ∈ moment.stays, stay.home.Open moment.machine.kernel := by
  intro stay inside
  obtain ⟨continuous, keeps⟩ := program.lives_continuous machine idle life member
  obtain ⟨own, owns⟩ := continuous.owns moment within stay inside
  exact ⟨own, owns, (Program.lives_accounted member within).backed (keeps moment within stay inside) own owns⟩

theorem Program.lives_home (idle : machine.thread.state = .idle)
    (resolves : ∀ life ∈ program.lives machine, ∀ moment ∈ life.moments, moment.Resolving)
    (member : life ∈ program.lives machine) (within : moment ∈ life.moments) :
    ∃ past, Homed life.birthplace past moment.stays moment.machine := by
  have inner : ∀ handle ∈ (none : Option Handle), handle ∈ ([] : List Handle) := by simp
  have ready : Ready machine.thread.location [] [] {} machine.kernel.opened machine
      (Session.fresh : Session V) := ⟨rfl, by simp, .refl machine.kernel, .idle idle rfl rfl⟩
  have homing := spanning_homes (program.homes inner) ready (History.every_lives.mp resolves) rfl
  have homeward : Homeward life.birthplace [] life.moments := by
    rcases List.mem_cons.mp member with rfl | other
    · exact homing.own
    · exact homing.others life other
  obtain ⟨past, future, moments⟩ := List.append_of_mem within
  rw [moments] at homeward
  exact ⟨_, (homeward_append.mp homeward).2.1⟩

/-- Where the kernel is lenient, no thread is ever stranded. -/
theorem Program.lives_untainted (idle : machine.thread.state = .idle)
    (lenient : ∀ life ∈ program.lives machine, ∀ moment ∈ life.moments, moment.Lenient)
    (member : life ∈ program.lives machine) : ∀ moment ∈ life.moments, moment.Untainted := by
  obtain ⟨continuous, -⟩ := program.lives_continuous machine idle life member
  obtain ⟨first, rest, moments, -, began⟩ := continuous.begins
  have leads := List.IsChain.iff_mem.mp continuous.leads
  refine leads.induction _ _ ?_ ?_
  · intro last next both untainted
    obtain ⟨within, -, leads⟩ := both
    obtain ⟨past, homed⟩ := Program.lives_home idle
      (fun life member moment within => (lenient life member moment within).resolves) member within
    exact leads.untainted_of_lenient (Program.lives_open idle member within) homed
      (lenient life member last within) untainted
  · intro nonempty
    simp [moments, Moment.Untainted, began]

end Lives

/-- A thread is tainted only by going back from a switch, when the kernel refuses to move it.

It never goes back with a handle that is closed, and is never away without one: whatever would be done
in these cases, a switch comes to the same, and the handle is one that the kernel has open.  And if at
every moment threads find their own namespaces, no fault waits for their moves and those that are
inside of switches are privileged, no thread is ever tainted, and a program is told of no failure to go
back but those that it makes up itself. -/
theorem tainted_by_refusal :
    (∀ {σ π ε α : Type} [OfError ε] [Owns α] (lapses : Switch.Lapses) (destination : Handle)
      (body : Switch.Body σ π ε α),
      Switch.Guard.run lapses destination body = Switch.run destination body) ∧
    ∀ (program : Program V) (machine : Machine), machine.thread.state = .idle →
      (∀ life ∈ program.lives machine, life.Continuous ∧
        (∀ moment ∈ life.moments, ∀ stay ∈ moment.stays, stay.home.Open moment.machine.kernel) ∧
        life.moments.IsChain fun last next => last.Untainted → next.Untainted ∨ last.Strands next) ∧
      ((∀ life ∈ program.lives machine, ∀ moment ∈ life.moments, moment.Lenient) →
        (∀ life ∈ program.lives machine, ∀ moment ∈ life.moments, moment.Untainted) ∧
        (program.start machine).2.thread.state ≠ .tainted ∧
        ∀ e ∈ errorsAll (program.start machine).1, e.isRestoreFailure = true → e ∈ program.made) := by
  refine ⟨fun lapses destination body => Switch.Guard.run_eq lapses destination body, ?_⟩
  intro program machine idle
  constructor
  · intro life member
    obtain ⟨continuous, -⟩ := program.lives_continuous machine idle life member
    have opens (moment : Moment) (within : moment ∈ life.moments) :=
      Program.lives_open idle member within
    refine ⟨continuous, opens, continuous.leads.imp_of_mem_imp ?_⟩
    exact fun last _ within _ leads untainted => leads.untainted_or_strands (opens last within) untainted
  · intro lenient
    have untainted (life : Life) (member : life ∈ program.lives machine) :=
      Program.lives_untainted idle lenient member
    have every : (spanning (program.run none) (program.chronicle none) {} (machine, .fresh)).Every
        Moment.Untainted := History.every_lives.mp untainted
    cases ran : program.run none (machine, .fresh) with
    | mk result left =>
        obtain ⟨after, session⟩ := left
        have started : program.start machine = (result.1, after) := by rw [Program.start, ran]
        obtain ⟨last, within, rfl, -⟩ := end_of_spanning ran
        have others (e : Error) (other : e.isRestoreFailure = false) :
            e.isRestoreFailure = true → e ∈ program.made :=
          fun restore => absurd restore (by simp [other])
        have told := program.run_tells others none (fun _ made _ => made) ran (every_spanning every).2
        rw [started]
        exact ⟨untainted, every.own last within, (List.forall_mem_append.mp told).1⟩

/-- A program whose code inside a namespace duplicates and closes the handle of where it came from, tries
to close the handle that it is inside by, and to switch again, and panics; and which has a worker go
there afterwards. -/
def returning : Program Unit :=
  let inside : Program Unit :=
    .step false (.duplicateHome "home") <| .step false (.close "home") <| .step false (.close "pod") <|
      .step false (.runInside (.byHandle .here "pod") .done (.value ()) false) .done
  .step false (.openPath (Bytes.ofString "/pod") "pod") <|
    .step false (.runInside (.byHandle .here "pod") inside (.panic "lost") false) <|
      .step false (.runInside (.byHandle .detached "pod") inside (.value ()) false) .done

theorem tainted_by_refusal_returning :
    hosting.thread.state = .idle ∧
      (∀ life ∈ returning.lives hosting, ∀ moment ∈ life.moments, moment.Lenient) ∧
      (∃ life ∈ returning.lives hosting, ∃ moment ∈ life.moments, moment.stays ≠ []) ∧
      (∀ life ∈ returning.lives hosting, ∀ moment ∈ life.moments, moment.Untainted) ∧
      ∀ e ∈ errorsAll (returning.start hosting).1, e.isRestoreFailure = false := by
  have absent : ∀ life ∈ returning.lives hosting, ∀ moment ∈ life.moments,
      moment.machine.kernel.files.lookup Path.threadSelf = none := by decide +kernel
  have unarmed : ∀ life ∈ returning.lives hosting, ∀ moment ∈ life.moments,
      moment.machine.kernel.Unarmed .setns := by decide +kernel
  have privileged : ∀ life ∈ returning.lives hosting, ∀ moment ∈ life.moments,
      moment.machine.thread.privileged = true := by decide +kernel
  have away : ∃ life ∈ returning.lives hosting, ∃ moment ∈ life.moments,
      moment.stays.isEmpty = false := by decide +kernel
  have lenient (life : Life) (member : life ∈ returning.lives hosting) (moment : Moment)
      (within : moment ∈ life.moments) : moment.Lenient :=
    ⟨.of_absent (absent life member moment within), unarmed life member moment within,
      fun _ => privileged life member moment within⟩
  obtain ⟨untainted, -, told⟩ := (tainted_by_refusal.2 returning hosting rfl).2 lenient
  refine ⟨rfl, lenient, ?_, untainted, fun e member => ?_⟩
  · obtain ⟨life, member, moment, within, inside⟩ := away
    exact ⟨life, member, moment, within, by simpa using inside⟩
  · cases restore : e.isRestoreFailure with
    | false => rfl
    | true => cases told e member restore

end Scenario

end NetSwitch
