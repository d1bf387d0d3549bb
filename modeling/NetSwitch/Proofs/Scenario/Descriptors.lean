import NetSwitch.Proofs.Scenario.History

/-! The descriptors that are open at every moment of a program are those of its handles, and
each of the others has been closed once. -/

namespace NetSwitch.Scenario

open Kernel (Descriptor)

def Moment.Accounted (origin : Kernel) (foreign : List Descriptor) (moment : Moment) : Prop :=
  origin.Accounts foreign moment.handles moment.machine.kernel

abbrev History.Accounted (origin : Kernel) (foreign : List Descriptor) (history : History) : Prop :=
  history.Every (·.Accounted origin foreign)

section Switches

variable {origin : Kernel} {foreign : List Descriptor} {context : Context} {machine : Machine}
variable {session : Session V} {destination : Handle} {path : Path}
variable [OfError ε] [Owns α] {body : Switch.Body (Session V) π ε α} {between : Handle → Chronicle V}

/-- A chronicle that starts with its accounts in order keeps them so, given the handles that
others hold. -/
def Chronicle.Accounted (chronicle : Chronicle V) (held : List Handle) : Prop :=
  ∀ ⦃origin foreign context machine session⦄, context.held = held →
    Kernel.Accounts origin foreign (held ++ Owns.handles session) machine.kernel →
    (chronicle context (machine, session)).Accounted origin foreign

omit [OfError ε] in
theorem spanning_accounted {run : Run V α} {chronicle : Chronicle V} {held : List Handle}
    (same : context.held = held)
    (accounts : origin.Accounts foreign (held ++ Owns.handles session) machine.kernel)
    (between : (chronicle context (machine, session)).Accounted origin foreign)
    (runs : ∀ {value after left}, run (machine, session) = (value, after, left) →
      origin.Accounts foreign (Owns.handles value ++ (held ++ Owns.handles left)) after.kernel) :
    (spanning run chronicle context (machine, session)).Accounted origin foreign := by
  cases ran : run (machine, session) with
  | mk value state =>
      obtain ⟨left, last⟩ := state
      simp only [spanning, ran]
      refine History.every_append.mpr ⟨History.every_append.mpr ⟨History.every_of.mpr ?_, between⟩,
        History.every_of.mpr ?_⟩
      · simp only [Moment.Accounted, Context.moment, same]
        exact accounts
      · simp only [Moment.Accounted, Context.moment, Context.holding, same]
        exact (runs ran).perm (by simp [Owns.handles])

omit [OfError ε] in
theorem visiting_accounted {home : Handle} {held : List Handle} (accountable : body.Accountable held)
    (betweens : (between home).Accounted (home :: held)) :
    (visiting body between home).Accounted (home :: held) := by
  intro origin foreign context machine session same accounts
  exact spanning_accounted same accounts (betweens same accounts) (accountable accounts)

omit [OfError ε] in
theorem switching_accounted {held : List Handle} (accountable : body.Accountable held)
    (betweens : ∀ home, (between home).Accounted (home :: held)) (same : context.held = held)
    (accounts : origin.Accounts foreign (held ++ Owns.handles session) machine.kernel)
    (backed : destination.Backed machine.kernel) :
    (switching destination body between context (machine, session)).Accounted origin foreign := by
  cases entering : Switch.enter destination machine with
  | mk answer arrival =>
      simp only [switching, entering]
      have entered := Switch.enter_accounts accounts backed entering
      cases answer with
      | error e => exact History.every_empty
      | ok home =>
          refine visiting_accounted accountable (betweens home) ?_ entered
          simp only [Context.inside, same]

theorem executing_accounted {held : List Handle} (accountable : body.Accountable held)
    (betweens : ∀ home, (between home).Accounted (home :: held)) (same : context.held = held)
    (accounts : origin.Accounts foreign (held ++ Owns.handles session) machine.kernel)
    (backed : destination.Backed machine.kernel) :
    (executing destination body between context (machine, session)).Accounted origin foreign :=
  spanning_accounted same accounts (switching_accounted accountable betweens same accounts backed)
    (Switch.run_accounts accountable accounts backed)

theorem executingAtPath_accounted {held : List Handle}
    (accountable : ∀ destination, body.Accountable (destination :: held))
    (betweens : ∀ home destination, (between home).Accounted (home :: destination :: held)) :
    (executingAtPath path body between).Accounted held := by
  intro origin foreign context machine session same accounts
  cases opening : Handle.openPath path machine with
  | mk answer opened =>
      simp only [executingAtPath, opening]
      have made := Handle.openPath_accounts accounts opening
      cases answer with
      | error e => exact History.every_empty
      | ok destination =>
          refine executing_accounted (accountable destination) (betweens · destination) ?_ made
            (made.backed (List.mem_cons_self ..))
          simp only [Context.holding, same, List.singleton_append]

theorem working_accounted {held : List Handle} (accountable : body.Accountable held)
    (betweens : ∀ home, (between home).Accounted (home :: held)) (same : context.held = held)
    (accounts : origin.Accounts foreign (held ++ Owns.handles session) machine.kernel)
    (backed : destination.Backed machine.kernel) :
    (working destination body between context (machine, session)).Accounted origin foreign := by
  have began : origin.Accounts foreign (held ++ Owns.handles session)
      ({ machine with thread := machine.thread.spawned } : Machine).kernel := accounts
  exact History.every_life.mpr (executing_accounted accountable betweens same began backed)

theorem mode_accounted {mode : Mode} {held : List Handle}
    (accountable : ∀ more, body.Accountable (more ++ held))
    (betweens : ∀ home more, (between home).Accounted (home :: (more ++ held)))
    (same : context.held = held)
    (accounts : origin.Accounts foreign (held ++ Owns.handles session) machine.kernel)
    (backed : destination.Backed machine.kernel) :
    (mode.chronicle destination body between context (machine, session)).Accounted origin foreign := by
  cases mode with
  | here =>
      exact executing_accounted (accountable []) (betweens · []) same accounts backed
  | onWorker =>
      cases spawning : Switch.spawnFor destination machine with
      | mk answer ready =>
          have quiet := Switch.spawnFor_quiet spawning
          simp only [Mode.chronicle, spawning]
          rcases answer with e | ⟨⟩
          · exact History.every_empty
          · exact working_accounted (accountable []) (betweens · []) same (accounts.of_quiet quiet)
              (backed.of_quiet quiet)
  | detached =>
      -- The copy is held for as long as the worker is in the switch.
      cases copying : destination.duplicate machine with
      | mk answer copied =>
          have duplicated := Handle.duplicate_accounts accounts backed copying
          simp only [Mode.chronicle, copying]
          rcases answer with e | copy
          · exact History.every_empty
          · cases spawning : Switch.spawnFor destination copied with
            | mk answer ready =>
                have joined := duplicated.of_quiet (Switch.spawnFor_quiet spawning)
                simp only [spawning]
                rcases answer with e | ⟨⟩
                · exact History.every_empty
                · refine working_accounted (accountable [copy]) (betweens · [copy]) ?_ joined
                    (joined.backed (List.mem_cons_self ..))
                  simp only [Context.holding, same]

theorem entry_accounted {entry : Entry} {held : List Handle}
    (accountable : ∀ more, body.Accountable (more ++ held))
    (betweens : ∀ home more, (between home).Accounted (home :: (more ++ held))) :
    (entry.chronicle body between).Accounted held := by
  intro origin foreign context machine session same accounts
  cases entry with
  | byPath path =>
      refine executingAtPath_accounted (fun destination => accountable [destination])
        (fun home destination => betweens home [destination]) same ?_
      exact accounts
  | byHandle mode name =>
      cases found : session.registry.slot? name with
      | none =>
          simp only [Entry.chronicle, found]
          exact History.every_empty
      | some slot =>
          have member := Registry.mem_handles (Registry.mem_of_slot? found)
          have backed := accounts.backed (List.mem_append_right held member)
          simp only [Entry.chronicle, found]
          refine mode_accounted accountable betweens same ?_ backed
          refine accounts.perm (List.Perm.append_left held ?_)
          rw [show Owns.handles session = session.registry.handles from rfl, ← Registry.handles_lend]
          exact .rfl

end Switches

theorem silent_accounted {held : List Handle} : (Chronicle.silent : Chronicle V).Accounted held :=
  fun _ _ _ _ _ _ _ => History.every_empty

theorem errand_accounted [Owns α] {netns : Path} {op : Op (Except Error α)} {held : List Handle}
    (innocent : Plugin.Innocent op) (ownsNothing : ∀ value : α, Owns.handles value = []) :
    (errand netns op : Chronicle V).Accounted held :=
  executingAtPath_accounted (fun _ => Plugin.body_accountable innocent ownsNothing)
    fun _ _ => silent_accounted

theorem performing_accounted {request : Plugin.Request} {held : List Handle} :
    (performing request : Chronicle V).Accounted held := by
  unfold performing
  split
  · exact errand_accounted Device.bring_ran fun _ => rfl
  · exact errand_accounted Device.bring_ran fun _ => rfl
  · exact errand_accounted Device.state_ran fun _ => rfl
  · exact silent_accounted

theorem invoking_accounted {request : Plugin.Request} {stdin : Bytes} {held : List Handle} :
    (invoking request stdin : Chronicle V).Accounted held := by
  intro origin foreign context machine session same accounts
  simp only [invoking]
  split
  · exact History.every_empty
  · exact performing_accounted same accounts

mutual

theorem Action.chronicle_accounted (action : Action V) {home : Option Handle} {held : List Handle}
    (inner : ∀ handle ∈ home, handle ∈ held) : (action.chronicle home).Accounted held := by
  intro origin foreign context machine session same accounts
  cases action with
  | runInside entry program ending resume =>
      have within (home : Handle) (more : List Handle) :
          ∀ handle ∈ some home, handle ∈ home :: (more ++ held) := by
        intro handle same
        cases same
        exact List.mem_cons_self ..
      refine entry_accounted (fun more => ?_) (fun home more => ?_) same accounts
      · exact programBody_accountable fun home => program.run_keeps (within home more)
      · exact program.chronicle_accounted (within home more)
  | thread program =>
      have began : origin.Accounts foreign (held ++ Owns.handles session)
          ({ machine with thread := machine.thread.spawned } : Machine).kernel := accounts
      exact History.every_life.mpr (spanning_accounted same began
        (program.chronicle_accounted inner same began) (program.run_keeps inner began))
  | plugin request stdin => exact invoking_accounted same accounts
  | _ => exact History.every_empty

theorem Program.chronicle_accounted (program : Program V) {home : Option Handle}
    {held : List Handle} (inner : ∀ handle ∈ home, handle ∈ held) :
    (program.chronicle home).Accounted held := by
  intro origin foreign context machine session same accounts
  cases program with
  | done => exact History.every_empty
  | step strict action rest =>
      have acted := spanning_accounted same accounts (action.chronicle_accounted inner same accounts)
        (action.run_keeps inner accounts)
      cases ran : action.run home (machine, session) with
      | mk reaction state =>
          obtain ⟨left, last⟩ := state
          have done := action.run_keeps inner accounts ran
          have continued := History.every_append.mpr
            ⟨acted, rest.chronicle_accounted inner same done⟩
          simp only [Program.chronicle, ran]
          rcases reaction with ⟨content, _ | failure⟩ | payload <;> cases strict
          all_goals first | exact acted | exact continued

end

/-- What the trace of calls says of the descriptors when those in `opened` are left open: each
that was open at first or has been made was closed once if it is not left open, and otherwise
not at all, and nothing is done with a descriptor once it has been closed. -/
structure Released (start : List Descriptor) (entries : List Kernel.Entry)
    (opened : List Descriptor) : Prop where
  closings : ∀ descriptor,
    (descriptor ∈ start ∨ ∃ entry ∈ entries, entry.report = .made descriptor) →
    entries.countP (·.closes descriptor) = if descriptor ∈ opened then 0 else 1
  final : ∀ first entry rest descriptor, entries = first ++ entry :: rest →
    entry.call = .close descriptor →
    ∀ later ∈ rest, later.call.descriptor? ≠ some descriptor ∧ later.report ≠ .made descriptor

theorem released_of_replay {start kernel : Kernel} {entries : List Kernel.Entry}
    (replayed : start.ledger.replay entries = some kernel.ledger) :
    Released start.opened entries kernel.opened := by
  constructor
  · intro descriptor known
    rcases known with isOpen | made
    · exact (Kernel.Ledger.replay_open start.ledger_bounded replayed isOpen).2
    · exact Kernel.Ledger.replay_made start.ledger_bounded replayed made
  · intro first entry rest descriptor split closing
    subst split
    exact Kernel.Ledger.replay_closed start.ledger_bounded replayed closing

/-- At every moment of every thread of a program, exactly those descriptors are open that were so
at the start and those of the handles that are alive, and every other that was made has been
closed once and left alone since.  Closing or dropping a handle takes no descriptor but its
own. -/
theorem Program.descriptors_accounted (program : Program V) (machine : Machine) :
    (∀ life ∈ program.lives machine, ∀ moment ∈ life.moments,
      moment.machine.kernel.opened.Perm
          (machine.kernel.opened ++ Handle.descriptors moment.handles) ∧
        ∃ entries, moment.machine.kernel.trace = machine.kernel.trace ++ entries ∧
          Released machine.kernel.opened entries moment.machine.kernel.opened) ∧
    ∀ (handle : Handle) (before : Machine),
      (handle.close before).2.kernel.opened =
          before.kernel.opened.filter (handle.descriptor? ≠ some ·) ∧
        (handle.drop before).2.kernel.opened =
          before.kernel.opened.filter (handle.descriptor? ≠ some ·) := by
  constructor
  · have start : machine.kernel.Accounts machine.kernel.opened ([] ++ Owns.handles (Session.fresh : Session V))
        machine.kernel := .refl machine.kernel
    have inner : ∀ handle ∈ (none : Option Handle), handle ∈ ([] : List Handle) := by simp
    have accounted : (spanning (program.run none) (program.chronicle none) {} (machine, .fresh)).Accounted
        machine.kernel machine.kernel.opened :=
      spanning_accounted rfl start (program.chronicle_accounted inner rfl start)
        (program.run_keeps inner start)
    intro life member moment within
    have good : moment.Accounted machine.kernel machine.kernel.opened :=
      History.every_lives.mpr accounted life member moment within
    obtain ⟨entries, trace, replayed⟩ := good.grown.entries
    exact ⟨good.opened, entries, trace, released_of_replay replayed⟩
  · intro handle before
    exact ⟨Handle.opened_without (Handle.close_descriptors rfl),
      Handle.opened_without (Handle.drop_descriptors rfl)⟩

/-- A host with a namespace file for a second namespace. -/
def hosting : Machine :=
  { Machine.host with
    kernel := Machine.host.kernel.putFile (Bytes.ofString "/pod")
      (.namespaceFile { target := .network "pod" }) }

/-- A program that opens a namespace from within and hands it out. -/
def fetching : Program Unit :=
  .step false (.runInside (.byPath (Bytes.ofString "/pod")) .done
    (.opened (Bytes.ofString "/pod") "second") false) .done

/-- When the code inside ends, three handles are alive: the one that it returns, the one of where
its thread came from, and the one of the switch. -/
theorem descriptors_accounted_fetching :
    ∃ life ∈ fetching.lives hosting, ∃ moment ∈ life.moments,
      Handle.descriptors moment.handles = [⟨3⟩, ⟨2⟩, ⟨1⟩] ∧
        moment.machine.kernel.opened.Perm
          (hosting.kernel.opened ++ Handle.descriptors moment.handles) := by
  have found : ∃ life ∈ fetching.lives hosting, ∃ moment ∈ life.moments,
      Handle.descriptors moment.handles = [⟨3⟩, ⟨2⟩, ⟨1⟩] := by decide +kernel
  obtain ⟨life, member, moment, within, alive⟩ := found
  exact ⟨life, member, moment, within, alive,
    ((fetching.descriptors_accounted hosting).1 life member moment within).1⟩

end NetSwitch.Scenario
