import NetSwitch.Proofs.Switch.Visit

/-! The ways of running code inside a namespace, and what they have in common: none of them
hides that a thread could not be moved back. -/

namespace NetSwitch.Switch

open Kernel (Descriptor Report)

/-- The ways of running code inside a namespace. -/
inductive Way where
  | here (destination : Handle)
  | onWorker (destination : Handle)
  | detached (destination : Handle)
  | atPath (path : Path)

/-- Runs code in one of the ways. -/
def Way.run [OfError ε] [Owns α] (way : Way) (body : Body σ π ε α) : Task σ (Outcome π ε α) :=
  match way with
  | .here destination => Switch.run destination body
  | .onWorker destination => runOnWorker destination body
  | .detached destination => runDetached destination body
  | .atPath path => runAtPath path body

variable [OfError ε] {destination handle : Handle} {path : Path} {body : Body σ π ε α}
variable {before after : Machine} {own rest : σ} {inner outcome : Outcome π ε α}

/-- What becomes of an outcome when the handle of its switch is closed: an error of closing
takes the place of a value, and of nothing else. -/
inductive Closes : Outcome π ε α → Outcome π ε α → Prop where
  | kept (outcome : Outcome π ε α) : Closes outcome outcome
  | refused (value : α) (path : Path) (errno : Errno) :
      Closes (.returned value) (.failed (OfError.ofError (Handle.failure path errno)))

theorem Closes.failed {e : ε} (closes : Closes inner outcome) (failed : inner = .failed e) :
    outcome = .failed e := by
  cases closes with
  | kept outcome => exact failed
  | refused value path errno => cases failed

theorem report_failed {e : ε} (failed : inner = .failed e) : report inner = .failed e := by
  rw [failed]
  rfl

/-- The call that moves the thread of a visit back is the first after the code, and if it
fails, the outcome is that failure, unless the code was unwound. -/
structure Visit.Unmasked (visit : Visit π ε α) (outcome : Outcome π ε α) (after : Machine)
    (origin : Descriptor) (report : Report) : Prop where
  owns : visit.home.descriptor? = some origin
  back : visit.finish.kernel.trace ++
      [⟨.setns origin (visit.finish.kernel.network? origin), report⟩] <+: after.kernel.trace
  stranded : (∀ payload, visit.outcome ≠ .unwound payload) → ∀ errno, report = .failed errno →
    outcome = .failed (OfError.ofError (.switchFailed .restore (.os errno.byName)))

theorem Visit.Unmasked.trans {visit : Visit π ε α} {middle : Machine} {origin : Descriptor}
    {report : Report} (unmasked : visit.Unmasked inner middle origin report)
    (trace : middle.kernel.trace <+: after.kernel.trace)
    (kept : ∀ e, inner = .failed e → outcome = .failed e) :
    visit.Unmasked outcome after origin report :=
  ⟨unmasked.owns, unmasked.back.trans trace, fun calm errno failed =>
    kept _ (unmasked.stranded calm errno failed)⟩

variable [Owns α]

theorem closeAfter_closes (ran : closeAfter handle inner before = (outcome, after)) :
    before.Trails after ∧ Closes inner outcome := by
  rcases closeAfter_ran ran with ⟨payload, -, rfl, dropping⟩ |
    ⟨value, e, middle, rfl, closing, discarding, rfl⟩ | ⟨closed, closing, rfl⟩
  · exact ⟨Handle.drop_trails dropping, .kept _⟩
  · obtain ⟨errno, rfl⟩ := Handle.close_error closing
    exact ⟨(Handle.close_trails closing).trans (discard_trails discarding), .refused value _ errno⟩
  · exact ⟨Handle.close_trails closing, .kept _⟩

/-- What a way comes to: its code is not run, or it is run once and what it comes to is not
masked. -/
def Way.Candid (way : Way) (body : Body σ π ε α) (before : Machine) (own : σ)
    (outcome : Outcome π ε α) (after : Machine) (rest : σ) : Prop :=
  way.run body.noted (before, own, []) = (outcome, after, rest, []) ∧ rest = own ∨
    ∃ visit origin report,
      way.run body.noted (before, own, []) = (outcome, after, rest, [visit]) ∧
      body visit.home (visit.start, own) = (visit.outcome, visit.finish, rest) ∧
      visit.Unmasked outcome after origin report

theorem run_candid (ran : run destination body (before, own) = (outcome, after, rest)) :
    (Way.here destination).Candid body before own outcome after rest := by
  rcases run_noted ran with ⟨noted, e, -, -, same⟩ | ⟨visit, noted, entering, ranBody, leaving⟩
  · exact .inl ⟨noted, same⟩
  · obtain ⟨target, origin, location, entered⟩ := enter_entered entering
    obtain ⟨report, back, decided⟩ := leave_decided entered.owns leaving
    exact .inr ⟨visit, origin, report, noted, ranBody, entered.owns, back, decided.stranded⟩

theorem runOnWorker_candid (ran : runOnWorker destination body (before, own) = (outcome, after, rest)) :
    (Way.onWorker destination).Candid body before own outcome after rest := by
  rcases runOnWorker_ran.mp ran with
    ⟨e, spawning, rfl, rfl⟩ | ⟨ready, worker, spawning, ranRun, rfl⟩
  · exact .inl ⟨runOnWorker_ran.mpr (.inl ⟨e, spawning, rfl, rfl⟩), rfl⟩
  · rcases run_candid ranRun with ⟨noted, same⟩ | ⟨visit, origin, report, noted, ranBody, unmasked⟩
    · exact .inl ⟨runOnWorker_ran.mpr (.inr ⟨ready, worker, spawning, noted, rfl⟩), same⟩
    · exact .inr ⟨visit, origin, report,
        runOnWorker_ran.mpr (.inr ⟨ready, worker, spawning, noted, rfl⟩), ranBody,
        unmasked.trans (List.prefix_refl _) fun _ => id⟩

theorem runDetached_candid (ran : runDetached destination body (before, own) = (outcome, after, rest)) :
    (Way.detached destination).Candid body before own outcome after rest := by
  rcases runDetached_ran.mp ran with ⟨e, copying, rfl, rfl⟩ |
    ⟨copy, copied, e, spawned, copying, spawning, dropping, rfl, rfl⟩ |
    ⟨copy, copied, ready, inner, left, closing, worker, copying, spawning, ranRun, ranClose, rfl, rfl⟩
  · exact .inl ⟨runDetached_ran.mpr (.inl ⟨e, copying, rfl, rfl⟩), rfl⟩
  · exact .inl ⟨runDetached_ran.mpr
      (.inr (.inl ⟨copy, copied, e, spawned, copying, spawning, dropping, rfl, rfl⟩)), rfl⟩
  · obtain ⟨trails, closes⟩ := closeAfter_closes ranClose
    rcases run_candid ranRun with ⟨noted, same⟩ | ⟨visit, origin, answered, noted, ranBody, unmasked⟩
    · exact .inl ⟨runDetached_ran.mpr (.inr (.inr ⟨copy, copied, ready, inner, left, closing, worker,
        copying, spawning, noted, ranClose, rfl, rfl⟩)), same⟩
    · refine .inr ⟨visit, origin, answered, runDetached_ran.mpr (.inr (.inr ⟨copy, copied, ready,
        inner, left, closing, worker, copying, spawning, noted, ranClose, rfl, rfl⟩)), ranBody, ?_⟩
      exact unmasked.trans trails.trace fun e failed => report_failed (closes.failed failed)

theorem runAtPath_candid (ran : runAtPath path body (before, own) = (outcome, after, rest)) :
    (Way.atPath path).Candid body before own outcome after rest := by
  rcases runAtPath_ran.mp ran with
    ⟨e, opening, rfl, rfl⟩ | ⟨destination, opened, inner, left, opening, ranRun, closing⟩
  · exact .inl ⟨runAtPath_ran.mpr (.inl ⟨e, opening, rfl, rfl⟩), rfl⟩
  · obtain ⟨trails, closes⟩ := closeAfter_closes closing
    rcases run_candid ranRun with ⟨noted, same⟩ | ⟨visit, origin, report, noted, ranBody, unmasked⟩
    · exact .inl ⟨runAtPath_ran.mpr
        (.inr ⟨destination, opened, inner, left, opening, noted, closing⟩), same⟩
    · refine .inr ⟨visit, origin, report, runAtPath_ran.mpr
        (.inr ⟨destination, opened, inner, left, opening, noted, closing⟩), ranBody, ?_⟩
      exact unmasked.trans trails.trace fun _ => closes.failed

theorem Way.run_candid {way : Way} (ran : way.run body (before, own) = (outcome, after, rest)) :
    way.Candid body before own outcome after rest := by
  cases way with
  | here destination => exact Switch.run_candid ran
  | onWorker destination => exact runOnWorker_candid ran
  | detached destination => exact runDetached_candid ran
  | atPath path => exact runAtPath_candid ran

end NetSwitch.Switch
