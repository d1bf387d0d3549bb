import NetSwitch.Proofs.Mirror.Plugin

/-! Nothing that is done depends on the log.

An operation that is run on machines of which only the log differs answers the same on both and
leaves machines of which only the log differs: each is a mirror of the other, with the same
descriptors and the same calls.
-/

namespace NetSwitch

/-- Whether an operation does the same whatever is in the log. -/
def Op.Blind (op : Op α) : Prop :=
  ∀ first second, first.Alike second →
    (op second).1 = (op first).1 ∧ (op first).2.Alike (op second).2

theorem Op.Blind.ran {op : Op α} {before other after : Machine} {answer : α} (blind : op.Blind)
    (alike : before.Alike other) (ran : op before = (answer, after)) :
    ∃ left, op other = (answer, left) ∧ after.Alike left := by
  obtain ⟨same, left⟩ := blind before other alike
  rw [ran] at same left
  exact ⟨(op other).2, Prod.ext same rfl, left⟩

/-- Whether code does the same, and leaves what it has to look after the same, whatever is in the
log. -/
def Task.Blind (task : Task σ α) : Prop :=
  ∀ first second own, first.Alike second →
    (task (second, own)).1 = (task (first, own)).1 ∧
      (task (second, own)).2.2 = (task (first, own)).2.2 ∧
      (task (first, own)).2.1.Alike (task (second, own)).2.1

theorem Task.Blind.ran {task : Task σ α} {before other after : Machine} {own kept : σ} {answer : α}
    (blind : task.Blind) (alike : before.Alike other)
    (ran : task (before, own) = (answer, after, kept)) :
    ∃ left, task (other, own) = (answer, left, kept) ∧ after.Alike left := by
  obtain ⟨same, still, left⟩ := blind before other own alike
  rw [ran] at same still left
  exact ⟨(task (other, own)).2.1, Prod.ext same (Prod.ext rfl still), left⟩

/-! ### Machines of which only the log differs -/

/-- The mirror of a run that differs from it in nothing that the kernel knows. -/
def Mirror.same : Mirror where
  limit := 0
  gap := 0
  beside := []
  Traces := Eq
  goesOn := by
    rintro trace _ rfl entry
    rw [Renumbering.entry_of_gap rfl]

theorem Mirror.same_plain : Mirror.same.Plain :=
  ⟨rfl, rfl, rfl⟩

theorem Mirror.same_machines {before after : Machine} :
    Mirror.same.Machines before after ↔ before.Alike after := by
  constructor
  · rintro ⟨kernels, thread⟩
    have traces : before.kernel.trace = after.kernel.trace := kernels.trace
    refine ⟨(Mirror.same_plain.kernel_eq kernels).trans ?_, thread⟩
    rw [← traces]
  · rintro ⟨kernel, thread⟩
    refine ⟨?_, thread⟩
    rw [kernel]
    exact Mirror.same_plain.kernels rfl

theorem Op.blind_of_ops {op : Op α} {Answers : α → α → Prop} (ops : Mirror.same.Ops Answers op op)
    (same : ∀ answer answer', Answers answer answer' → answer' = answer) : op.Blind := by
  intro first second alike
  obtain ⟨answers, machines⟩ := ops (Mirror.same_machines.mpr alike)
  exact ⟨same _ _ answers, Mirror.same_machines.mp machines⟩

theorem Task.blind_of_tasks {task : Task σ α} {Answers : α → α → Prop}
    (tasks : Mirror.same.Tasks Eq Answers task task)
    (same : ∀ answer answer', Answers answer answer' → answer' = answer) : task.Blind := by
  intro first second own alike
  have start : Mirror.same.States Eq (first, own) (second, own) :=
    ⟨Mirror.same_machines.mpr alike, rfl⟩
  obtain ⟨answers, machines, kept⟩ := tasks start
  exact ⟨same _ _ answers, kept.symm, Mirror.same_machines.mp machines⟩

theorem Handle.openPath_blind (path : Path) : (openPath path).Blind := by
  refine Op.blind_of_ops (Mirror.openPath path) fun answer answer' answered => ?_
  refine answered.eq fun handle _ same => same.symm.trans ?_
  rw [Renumbering.handle_of_gap rfl, id_eq]

theorem Plugin.perform_blind (request : Request) (version : String) : (perform request version).Blind :=
  Op.blind_of_ops (Mirror.perform request version) fun _ _ answered => answered.eq fun _ _ same => same.symm

theorem Plugin.runAtPath_blind [Owns α] (none : ∀ value : α, Owns.handles value = [])
    {op : Op (Except NetSwitch.Error α)} (ops : Mirror.same.Ops (Answered Eq) op op) (path : Path) :
    (Switch.runAtPath path (body op) : Task σ _).Blind :=
  Task.blind_of_tasks (Mirror.runAtPath (Mirror.owning_of_none none) (Mirror.body ops))
    fun _ _ ended => ended.eq fun _ _ same => same.symm

end NetSwitch
