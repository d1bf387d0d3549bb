import NetSwitch.Proofs.Blind
import NetSwitch.Proofs.Switch.Mark

/-! How a switch is left by which nothing is handed on.

Returning and unwinding take different ways out: the first goes back and closes what was opened, the
second has the same done by what it destroys.  Both are in step with `exit`, so that a machine
cannot tell which of them was taken.
-/

namespace NetSwitch

open Kernel (Call CallKind Descriptor Entry Report)

/-! ### Operations on machines of which only the log differs -/

/-- Operations that leave machines of which only the log differs, if they find such machines. -/
abbrev Op.Parallel (Answers : α → β → Prop) (first : Op α) (second : Op β) : Prop :=
  InStep Machine.Alike Answers first second

namespace Op

variable {op first : Op α} {other : Op β} {next : α → Op γ} {event : Log.Event}
variable {Answers : α → β → Prop} {Ends : γ → β → Prop}

theorem Blind.parallel (blind : op.Blind) : Parallel Eq op op := by
  intro before before' alike
  obtain ⟨same, left⟩ := blind before before' alike
  exact ⟨same.symm, left⟩

theorem Parallel.emit_first (parallel : Parallel Answers op other) :
    Parallel Answers (emit event >>= fun _ => op) other :=
  fun _ _ alike => parallel ((emit_alike rfl).symm.trans alike)

theorem Parallel.emit_second (parallel : Parallel Answers op other) :
    Parallel Answers op (emit event >>= fun _ => other) :=
  fun _ _ alike => parallel (alike.trans (emit_alike rfl))

/-- What follows changes nothing but the log. -/
theorem Parallel.followed (parallel : Parallel Answers first other)
    (rest : ∀ value value', Answers value value' → Parallel Ends (next value) (pure value')) :
    Parallel Ends (first >>= next) other :=
  fun _ _ alike => rest _ _ (parallel alike).1 (parallel alike).2

end Op

theorem Syscall.close_blind (descriptor : Descriptor) : (close descriptor).Blind := by
  have ops := @Mirror.close Mirror.same descriptor
  rw [Renumbering.descriptor_of_gap rfl] at ops
  exact Op.blind_of_ops ops fun _ _ answered => answered.eq fun _ _ same => same.symm

namespace Handle

theorem drop_blind (handle : Handle) : handle.drop.Blind := by
  have ops := @Mirror.drop Mirror.same handle
  rw [Renumbering.handle_of_gap rfl] at ops
  exact Op.blind_of_ops ops fun _ _ same => same.symm

/-- A handle is closed as it is dropped. -/
theorem close_drops (handle : Handle) : Op.Parallel (fun _ _ => True) handle.close handle.drop := by
  unfold close drop
  cases handle.descriptor? with
  | none => exact .pure trivial
  | some descriptor =>
      refine Op.Parallel.emit_second (InStep.bind (Syscall.close_blind descriptor).parallel ?_)
      rintro (errno | ⟨⟩) _ -
      · exact .pure trivial
      · exact Op.Parallel.emit_first (.pure trivial)

end Handle

namespace Switch

variable [OfError ε] [Owns α] {home handle : Handle} {inner : Outcome π ε α} {machine : Machine}

/-! ### The way out -/

theorem restore_blind (home : Handle) : (restore home).Blind := by
  have ops := @Mirror.restore Mirror.same home
  rw [Renumbering.handle_of_gap rfl] at ops
  exact Op.blind_of_ops ops fun _ _ answered => answered.eq fun _ _ same => same.symm

/-- Throwing away what owns nothing is doing nothing. -/
theorem discard_bare (value : α) (bare : Owns.handles value = []) : discard value = pure () := by
  rw [discard, bare]
  rfl

theorem leave_restores (bare : Owns.handles inner = []) :
    Op.Parallel (fun outcome restored => outcome = settle inner restored) (leave home inner)
      (restore home) := by
  have restores := (restore_blind home).parallel
  cases inner with
  | unwound payload =>
      exact Op.Parallel.emit_first (restores.followed fun _ _ _ => .pure rfl)
  | failed error =>
      refine restores.followed ?_
      rintro (e | ⟨⟩) _ rfl
      · exact Op.Parallel.emit_first (.pure rfl)
      · exact .pure rfl
  | returned value =>
      refine restores.followed ?_
      rintro (e | ⟨⟩) _ rfl
      · change Op.Parallel _ (discard value >>= fun _ => _) _
        rw [discard_bare value bare]
        exact .pure rfl
      · exact .pure rfl

theorem closeAfter_drops (bare : Owns.handles inner = []) :
    Op.Parallel (fun outcome _ => Owns.handles outcome = []) (closeAfter handle inner) handle.drop := by
  cases inner with
  | unwound payload => exact handle.drop_blind.parallel.followed fun _ _ _ => .pure rfl
  | failed error => exact handle.close_drops.followed fun _ _ _ => .pure rfl
  | returned value =>
      refine handle.close_drops.followed ?_
      rintro (e | ⟨⟩) _ -
      · change Op.Parallel _ (discard value >>= fun _ => _) _
        rw [discard_bare value bare]
        exact .pure rfl
      · exact .pure bare

/-- Goes back, and gives up what else was held. -/
def exit (arrival : Arrival) : Op (Except Error Unit) := do
  let restored ← restore arrival.home
  Handle.dropAll arrival.more
  return restored

theorem leave_exits (bare : Owns.handles inner = []) :
    Op.Parallel (fun outcome _ => Owns.handles outcome = []) (leave home inner)
      (exit ⟨home, [], machine⟩) := by
  intro before before' alike
  obtain ⟨settled, left⟩ := leave_restores bare alike
  refine ⟨?_, left⟩
  rw [settled]
  exact List.subset_nil.mp (bare ▸ settle_yields)

theorem leave_close_exits (bare : Owns.handles inner = []) :
    Op.Parallel (fun outcome _ => Owns.handles outcome = []) (leave home inner >>= closeAfter handle)
      (exit ⟨home, [handle], machine⟩) := by
  intro before before' alike
  have leaves : Op.Parallel _ (leave home inner) (exit ⟨home, [], machine⟩) := leave_exits bare
  obtain ⟨settled, left⟩ := leaves alike
  exact closeAfter_drops settled left

variable {before middle after : Machine} {outcome settled : Outcome π ε α}

theorem leave_exited (bare : Owns.handles inner = []) (leaving : leave home inner before = (outcome, after)) :
    Owns.handles outcome = [] ∧ (exit ⟨home, [], machine⟩ before).2.Alike after := by
  have parallel : Op.Parallel _ (leave home inner) (exit ⟨home, [], machine⟩) := leave_exits bare
  obtain ⟨empty, alike⟩ := parallel (.refl before)
  rw [leaving] at empty alike
  exact ⟨empty, alike.symm⟩

theorem leave_close_exited (bare : Owns.handles inner = [])
    (leaving : leave home inner before = (settled, middle))
    (closing : closeAfter handle settled middle = (outcome, after)) :
    Owns.handles outcome = [] ∧ (exit ⟨home, [handle], machine⟩ before).2.Alike after := by
  have parallel : Op.Parallel _ (leave home inner >>= closeAfter handle) (exit ⟨home, [handle], machine⟩) :=
    leave_close_exits bare
  obtain ⟨empty, alike⟩ := parallel (.refl before)
  rw [Op.bind_ran.mpr ⟨_, _, leaving, closing⟩] at empty alike
  exact ⟨empty, alike.symm⟩

/-! ### The calls on the way out -/

theorem close_closes (handle : Handle) : handle.close.Calls fun entry => entry.call.kind = .close := by
  unfold Handle.close
  cases handle.descriptor? with
  | none => exact Op.calls_pure _
  | some descriptor =>
      refine Op.calls_bind (Op.calls_of_does Syscall.Does.close fun _ _ => rfl) fun closed => ?_
      rcases closed with errno | ⟨⟩
      · exact Op.calls_pure _
      · exact Op.calls_bind (Op.calls_emit _) fun _ => Op.calls_pure _

theorem closeHome_closes (home : Handle) : (closeHome home).Calls fun entry => entry.call.kind = .close := by
  refine Op.calls_bind (close_closes home) fun closed => ?_
  rcases closed with e | ⟨⟩
  · exact Op.calls_emit _
  · exact Op.calls_pure _

theorem dropAll_closes (handles : List Handle) :
    (Handle.dropAll handles).Calls fun entry => entry.call.kind = .close := by
  refine (Handle.dropAll_calls handles).mono fun entry releases => ?_
  obtain ⟨handle, -, descriptor, -, closes⟩ := releases
  rw [closes]
  rfl

/-- What becomes of a thread, given what the call reports that moves it back. -/
inductive Moved (start : Machine) (origin : Descriptor) : Report → Thread → Prop where
  | back (location : String) (there : start.kernel.network? origin = some location) :
      Moved start origin .ok { start.thread with location, state := .idle }
  | stranded (errno : Errno) : Moved start origin (.failed errno) { start.thread with state := .tainted }

/-- Code that has ended is left by one call to move its thread back, and after that handles are closed
and nothing else is done. -/
theorem exit_ran {arrival : Arrival} {origin : Descriptor} {restored : Except Error Unit}
    (owns : arrival.home.descriptor? = some origin) (ran : exit arrival before = (restored, after)) :
    ∃ report closes, after.kernel.trace =
        before.kernel.trace ++ ⟨.setns origin (before.kernel.network? origin), report⟩ :: closes ∧
      (∀ entry ∈ closes, entry.call.kind = .close) ∧ Moved before origin report after.thread := by
  obtain ⟨_, back, restoring, ranRest⟩ := Op.bind_ran.mp ran
  obtain ⟨⟨⟩, last, dropping, ranRest⟩ := Op.bind_ran.mp ranRest
  cases ranRest
  obtain ⟨report, moved, noted, moving, pauses, closing, answered⟩ := restore_steps owns restoring
  obtain ⟨first, courseFirst, closesFirst⟩ := closeHome_closes _ _ _ _ closing
  obtain ⟨more, courseMore, closesMore⟩ := dropAll_closes _ _ _ _ dropping
  refine ⟨Syscall.noteOf (fun _ => .ok) report, (first ++ more).map (·.step), ?_, ?_, ?_⟩
  · rw [courseMore.trace, courseFirst.trace, pauses.kernel, (Syscall.Does.setns moving).trace]
    simp
  · simp only [List.map_append, List.mem_append, List.mem_map]
    rintro entry (⟨moment, mem, rfl⟩ | ⟨moment, mem, rfl⟩)
    · exact closesFirst moment mem
    · exact closesMore moment mem
  · rw [(Handle.dropAll_trails dropping).thread]
    cases restore_returns owns restoring with
    | back location there thread =>
        rcases report with errno | ⟨⟩
        · cases answered
        · exact thread ▸ .back location there
    | stranded errno thread =>
        rcases report with errno | ⟨⟩
        · exact thread ▸ .stranded errno
        · cases answered

/-! ### Ways of running code -/

section Ways

variable {destination : Handle} {way : Way} {body : Body σ π ε α} {other : Body τ π ε α}
variable {own rest : σ} {arrival : Arrival} {more : List Handle}

theorem run_barred (nowhere : arrive destination more before = none)
    (ran : run destination body (before, own) = (outcome, after, rest)) :
    Owns.handles outcome = [] ∧ ∀ (other : Body τ π ε α) own,
      run destination other (before, own) = (outcome, after, own) := by
  rcases run_ran.mp ran with ⟨e, entering, rfl, -⟩ | ⟨home, entered, inner, left, entering, -, -⟩
  · exact ⟨rfl, fun other own => run_ran.mpr (.inl ⟨e, entering, rfl, rfl⟩)⟩
  · simp [arrive, entering] at nowhere

theorem run_left (arrives : arrive destination more before = some arrival)
    (ran : run destination body (before, own) = (outcome, after, rest)) :
    ∃ home entered origin inner left, arrival = ⟨home, more, entered⟩ ∧ home.descriptor? = some origin ∧
      body home (entered, own) = (inner, left, rest) ∧ leave home inner left = (outcome, after) := by
  rcases run_ran.mp ran with ⟨e, entering, -, -⟩ | ⟨home, entered, inner, left, entering, ranBody, leaving⟩
  · simp [arrive, entering] at arrives
  · simp only [arrive, entering, Option.some.injEq] at arrives
    obtain ⟨_, origin, _, opened⟩ := enter_entered entering
    exact ⟨home, entered, origin, inner, left, arrives.symm, opened.owns, ranBody, leaving⟩

/-- Code that is not reached makes no difference. -/
theorem Way.run_nowhere (nowhere : way.arrive before = none)
    (ran : way.run body (before, own) = (outcome, after, rest)) :
    Owns.handles outcome = [] ∧ ∀ (other : Body τ π ε α) own,
      way.run other (before, own) = (outcome, after, own) := by
  cases way with
  | here destination => exact run_barred nowhere ran
  | onWorker destination =>
      rcases runOnWorker_ran.mp ran with ⟨e, spawning, rfl, -⟩ | ⟨ready, worker, spawning, ranRun, rfl⟩
      · exact ⟨rfl, fun other own => runOnWorker_ran.mpr (.inl ⟨e, spawning, rfl, rfl⟩)⟩
      · simp only [Way.arrive, arriveOnWorker, spawning] at nowhere
        obtain ⟨bare, runs⟩ := run_barred nowhere ranRun
        exact ⟨bare, fun other own =>
          runOnWorker_ran.mpr (.inr ⟨ready, worker, spawning, runs other own, rfl⟩)⟩
  | detached destination =>
      rcases runDetached_ran.mp ran with ⟨e, copying, rfl, -⟩ |
        ⟨copy, copied, e, spawned, copying, spawning, dropping, rfl, -⟩ |
        ⟨copy, copied, ready, inner, left, closing, worker, copying, spawning, ranRun, ranClose, rfl, rfl⟩
      · exact ⟨rfl, fun other own => runDetached_ran.mpr (.inl ⟨e, copying, rfl, rfl⟩)⟩
      · exact ⟨rfl, fun other own => runDetached_ran.mpr
          (.inr (.inl ⟨copy, copied, e, spawned, copying, spawning, dropping, rfl, rfl⟩))⟩
      · simp only [Way.arrive, arriveDetached, copying, spawning] at nowhere
        obtain ⟨bare, runs⟩ := run_barred nowhere ranRun
        refine ⟨?_, fun other own => runDetached_ran.mpr (.inr (.inr ⟨copy, copied, ready, inner, left,
          closing, worker, copying, spawning, runs other own, ranClose, rfl, rfl⟩))⟩
        exact report_handles.trans (List.subset_nil.mp (bare ▸ closeAfter_yields ranClose))
  | atPath path =>
      rcases runAtPath_ran.mp ran with
        ⟨e, opening, rfl, -⟩ | ⟨destination, opened, inner, left, opening, ranRun, closing⟩
      · exact ⟨rfl, fun other own => runAtPath_ran.mpr (.inl ⟨e, opening, rfl, rfl⟩)⟩
      · simp only [Way.arrive, arriveAtPath, opening] at nowhere
        obtain ⟨bare, runs⟩ := run_barred nowhere ranRun
        refine ⟨List.subset_nil.mp (bare ▸ closeAfter_yields closing), fun other own =>
          runAtPath_ran.mpr (.inr ⟨destination, opened, inner, left, opening, runs other own, closing⟩)⟩

/-- The machine in which a thread goes on that has had code run: if it was run by another thread, it is
the one that waited for it. -/
def Way.resumed (way : Way) (waiting : Thread) (left : Machine) : Machine :=
  match way with
  | .here _ | .atPath _ => left
  | .onWorker _ | .detached _ => { left with thread := waiting }

/-- Code by which nothing is handed on is left by one exit, whatever it comes to. -/
theorem Way.run_exits (arrives : way.arrive before = some arrival)
    (ran : way.run body (before, own) = (outcome, after, rest)) :
    ∃ origin inner left, arrival.home.descriptor? = some origin ∧
      body arrival.home (arrival.machine, own) = (inner, left, rest) ∧
      (Owns.handles inner = [] → Owns.handles outcome = [] ∧
        (way.resumed before.thread (exit arrival left).2).Alike after) := by
  cases way with
  | here destination =>
      obtain ⟨home, entered, origin, inner, left, rfl, owns, ranBody, leaving⟩ := run_left arrives ran
      exact ⟨origin, inner, left, owns, ranBody, fun bare => leave_exited bare leaving⟩
  | onWorker destination =>
      rcases runOnWorker_ran.mp ran with ⟨e, spawning, rfl, -⟩ | ⟨ready, worker, spawning, ranRun, rfl⟩
      · simp [Way.arrive, arriveOnWorker, spawning] at arrives
      · simp only [Way.arrive, arriveOnWorker, spawning] at arrives
        obtain ⟨home, entered, origin, inner, left, rfl, owns, ranBody, leaving⟩ := run_left arrives ranRun
        refine ⟨origin, inner, left, owns, ranBody, fun bare => ?_⟩
        obtain ⟨empty, alike⟩ := leave_exited bare leaving
        rw [(spawnFor_quiet spawning).thread]
        exact ⟨empty, alike.kernel, rfl⟩
  | detached destination =>
      rcases runDetached_ran.mp ran with ⟨e, copying, rfl, -⟩ |
        ⟨copy, copied, e, spawned, copying, spawning, dropping, rfl, -⟩ |
        ⟨copy, copied, ready, settled, middle, closing, worker, copying, spawning, ranRun, ranClose, rfl, rfl⟩
      · simp [Way.arrive, arriveDetached, copying] at arrives
      · simp [Way.arrive, arriveDetached, copying, spawning] at arrives
      · simp only [Way.arrive, arriveDetached, copying, spawning] at arrives
        obtain ⟨home, entered, origin, inner, left, rfl, owns, ranBody, leaving⟩ := run_left arrives ranRun
        refine ⟨origin, inner, left, owns, ranBody, fun bare => ?_⟩
        obtain ⟨empty, alike⟩ := leave_close_exited bare leaving ranClose
        rw [(spawnFor_quiet spawning).thread, (Handle.duplicate_trails copying).thread]
        exact ⟨report_handles.trans empty, alike.kernel, rfl⟩
  | atPath path =>
      rcases runAtPath_ran.mp ran with
        ⟨e, opening, rfl, -⟩ | ⟨destination, opened, settled, middle, opening, ranRun, closing⟩
      · simp [Way.arrive, arriveAtPath, opening] at arrives
      · simp only [Way.arrive, arriveAtPath, opening] at arrives
        obtain ⟨home, entered, origin, inner, left, rfl, owns, ranBody, leaving⟩ := run_left arrives ranRun
        exact ⟨origin, inner, left, owns, ranBody, fun bare => leave_close_exited bare leaving closing⟩

/-! ### Code that differs in how it ends -/

/-- Where a visit was made, and what it found and left, but not what it came to. -/
def Visit.course (visit : Visit π ε α) : Handle × Machine × Machine :=
  (visit.home, visit.start, visit.finish)

/-- What is done once the code of a visit has ended: one call moves its thread back, and handles are
closed. -/
structure Visit.Exits (visit : Visit π ε α) (way : Way) (before after : Machine) : Prop where
  leaves : ∃ origin report thread closes, visit.home.descriptor? = some origin ∧
    after.kernel.trace = visit.finish.kernel.trace ++
      ⟨.setns origin (visit.finish.kernel.network? origin), report⟩ :: closes ∧
    (∀ entry ∈ closes, entry.call.kind = .close) ∧ Moved visit.finish origin report thread ∧
    (way.Apart → after.thread = before.thread) ∧ (¬ way.Apart → after.thread = thread)

theorem Way.resumed_kernel (way : Way) (waiting : Thread) (left : Machine) :
    (way.resumed waiting left).kernel = left.kernel := by
  cases way <;> rfl

theorem Way.resumed_thread (way : Way) (waiting : Thread) (left : Machine) :
    (way.Apart → (way.resumed waiting left).thread = waiting) ∧
      (¬ way.Apart → (way.resumed waiting left).thread = left.thread) := by
  cases way <;> simp [Way.Apart, Way.resumed]

/-- Code by which nothing is handed on is run once where it is reached, and left by the exit. -/
theorem Way.run_visited (bare : ∀ home state, Owns.handles (body home state).1 = [])
    (arrives : way.arrive before = some arrival)
    (ran : way.run body (before, own) = (outcome, after, rest)) :
    ∃ visit : Visit π ε α, way.run body.noted (before, own, []) = (outcome, after, rest, [visit]) ∧
      visit.home = arrival.home ∧ visit.start = arrival.machine ∧
      body arrival.home (arrival.machine, own) = (visit.outcome, visit.finish, rest) ∧
      (way.resumed before.thread (exit arrival visit.finish).2).Alike after ∧ visit.Exits way before after := by
  have noted : ∃ visits, way.run body.noted (before, own, []) = (outcome, after, rest, visits) := by
    rcases Way.run_candid ran with ⟨noted, -⟩ | ⟨visit, _, _, noted, -⟩
    · exact ⟨[], noted⟩
    · exact ⟨[visit], noted⟩
  obtain ⟨visits, noted⟩ := noted
  obtain ⟨origin, inner, left, owns, ranBody, exits⟩ := Way.run_exits arrives noted
  cases ranInner : body arrival.home (arrival.machine, own) with
  | mk found state =>
      obtain ⟨gone, kept⟩ := state
      simp only [Body.noted, ranInner, List.nil_append] at ranBody
      cases ranBody
      have empty : Owns.handles inner = [] := by
        have owned := bare arrival.home (arrival.machine, own)
        rwa [ranInner] at owned
      obtain ⟨-, alike⟩ := exits empty
      have exiting : exit arrival left = ((exit arrival left).1, (exit arrival left).2) := rfl
      obtain ⟨report, closes, trace, areCloses, moved⟩ := exit_ran owns exiting
      refine ⟨⟨arrival.home, arrival.machine, inner, left⟩, noted, rfl, rfl, rfl, alike, ?_⟩
      obtain ⟨apart, here⟩ := way.resumed_thread before.thread (exit arrival left).2
      refine ⟨origin, report, _, closes, owns, ?_, areCloses, moved, ?_, ?_⟩
      · rw [alike.kernel, way.resumed_kernel, trace]
      · intro isApart
        rw [alike.thread, apart isApart]
      · intro isHere
        rw [alike.thread, here isHere]

/-- Two pieces of code that leave the same, and by neither of which anything is handed on. -/
structure Body.Same (first second : Body σ π ε α) : Prop where
  left : ∀ home state, (first home state).2 = (second home state).2
  bare : ∀ home state, Owns.handles (first home state).1 = []
  bareToo : ∀ home state, Owns.handles (second home state).1 = []

/-- Two runs that nobody can tell apart who looks at the machine: their code is run once or not at all,
in the same place, and they leave the same, by the same calls. -/
def Way.Twins (way : Way) (first second : Body σ π ε α) (before : Machine) (own : σ) : Prop :=
  ∃ outcome outcome' after after' rest visits visits',
    way.run first (before, own) = (outcome, after, rest) ∧
    way.run second (before, own) = (outcome', after', rest) ∧
    way.run first.noted (before, own, []) = (outcome, after, rest, visits) ∧
    way.run second.noted (before, own, []) = (outcome', after', rest, visits') ∧
    after.Alike after' ∧ visits.length ≤ 1 ∧ visits.map Visit.course = visits'.map Visit.course ∧
    (∀ visit ∈ visits, visit.Exits way before after) ∧ ∀ visit ∈ visits', visit.Exits way before after'

theorem Way.run_twins {first second : Body σ π ε α} (same : first.Same second) (way : Way)
    (before : Machine) (own : σ) : way.Twins first second before own := by
  cases ran : way.run first (before, own) with
  | mk outcome state =>
  obtain ⟨after, rest⟩ := state
  cases arrives : way.arrive before with
  | none =>
      obtain ⟨-, runs⟩ := Way.run_nowhere arrives ran
      obtain ⟨-, runsNoted⟩ := Way.run_nowhere arrives ran
      obtain ⟨-, rfl⟩ := Prod.mk.inj (Prod.mk.inj (ran.symm.trans (runs first own))).2
      exact ⟨outcome, outcome, after, after, _, [], [], ran, runs second _, runsNoted first.noted (_, []),
        runsNoted second.noted (_, []), .refl _, Nat.zero_le _, rfl, nofun, nofun⟩
  | some arrival =>
      cases ranToo : way.run second (before, own) with
      | mk outcome' state' =>
      obtain ⟨after', rest'⟩ := state'
      obtain ⟨visit, noted, home, start, ranBody, alike, exits⟩ := Way.run_visited same.bare arrives ran
      obtain ⟨visit', noted', home', start', ranBody', alike', exits'⟩ :=
        Way.run_visited same.bareToo arrives ranToo
      have left := same.left arrival.home (arrival.machine, own)
      rw [ranBody, ranBody'] at left
      obtain ⟨finish, rfl⟩ := Prod.mk.inj left
      rw [← finish] at alike'
      refine ⟨outcome, outcome', after, after', _, [visit], [visit'], ran, ranToo, noted, noted',
        alike.symm.trans alike', Nat.le_refl _, ?_, List.forall_mem_singleton.mpr exits,
        List.forall_mem_singleton.mpr exits'⟩
      simp [Visit.course, home, home', start, start', finish]

theorem Way.run_bare (bare : ∀ home state, Owns.handles (body home state).1 = [])
    (ran : way.run body (before, own) = (outcome, after, rest)) : Owns.handles outcome = [] := by
  cases arrives : way.arrive before with
  | none =>
      obtain ⟨empty, -⟩ : _ ∧ ∀ (other : Body σ π ε α) own, _ := Way.run_nowhere arrives ran
      exact empty
  | some arrival =>
      obtain ⟨origin, inner, left, -, ranBody, exits⟩ := Way.run_exits arrives ran
      have empty := bare arrival.home (arrival.machine, own)
      rw [ranBody] at empty
      exact (exits empty).1

end Ways

/-- Code that takes some steps and then ends as it is told, unless the steps have ended it before. -/
def Body.ending (steps : Handle → Task σ (Outcome π ε Unit)) (last : Outcome π ε Unit) : Body σ π ε Unit :=
  fun home => do
    match ← steps home with
    | .returned () => return last
    | outcome => return outcome

omit [OfError ε] in
theorem Body.ending_same (steps : Handle → Task σ (Outcome π ε Unit)) (first second : Outcome π ε Unit) :
    (ending steps first).Same (ending steps second) := by
  have ends (last : Outcome π ε Unit) (home : Handle) (state : Machine × σ) :
      (ending steps last home state).2 = (steps home state).2 := by
    cases ran : ending steps last home state with
    | mk outcome left =>
        obtain ⟨found, middle, ranSteps, ranRest⟩ := Task.bind_ran.mp ran
        rw [ranSteps]
        cases found <;> cases ranRest <;> rfl
  have empty (outcome : Outcome π ε Unit) : Owns.handles outcome = [] := by
    cases outcome <;> rfl
  exact ⟨fun home state => (ends first home state).trans (ends second home state).symm,
    fun _ _ => empty _, fun _ _ => empty _⟩

end Switch

end NetSwitch
