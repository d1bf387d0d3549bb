import NetSwitch.Proofs.Plugin.Stranding
import NetSwitch.Proofs.Switch.Ownership

/-! An invocation of the plugin leaves no descriptor open that was not open before. -/

namespace NetSwitch.Plugin

open Kernel (Descriptor)

variable {origin : Kernel} {foreign : List Descriptor} {handles held : List Handle}
variable {before after : Machine} {request : Request}

theorem body_accountable [Owns σ] [Owns α] {op : Op (Except NetSwitch.Error α)}
    (innocent : Innocent op) (ownsNothing : ∀ value : α, Owns.handles value = []) :
    (body op : Switch.Body σ Empty NetSwitch.Error α).Accountable held := by
  intro origin foreign home before own outcome after rest accounts ran
  obtain ⟨answer, ranOp, rfl, rfl⟩ := body_ran.mp ran
  have kept := accounts.of_quiet (innocent ranOp).1
  cases answer with
  | error e => exact kept
  | ok value =>
      change origin.Accounts foreign (Owns.handles value ++ _) after.kernel
      rw [ownsNothing]
      exact kept

variable [Owns α] {op : Op (Except NetSwitch.Error α)}

theorem handles_eq_nil {outcome : Outcome Empty NetSwitch.Error α}
    (ownsNothing : ∀ value : α, Owns.handles value = []) : Owns.handles outcome = [] := by
  rcases outcome with value | e | ⟨⟨⟩⟩
  · exact ownsNothing value
  · rfl

theorem result_accounts {path : Path} {answer : Except Error α} (innocent : Innocent op)
    (ownsNothing : ∀ value : α, Owns.handles value = [])
    (accounts : origin.Accounts foreign handles before.kernel)
    (ran : result (Switch.runAtPath path (body op)) before = (answer, after)) :
    origin.Accounts foreign handles after.kernel := by
  obtain ⟨outcome, rest, ranTask, -⟩ := result_ran.mp ran
  have start : origin.Accounts foreign (handles ++ Owns.handles ()) before.kernel :=
    accounts.perm (by rw [show Owns.handles () = [] from rfl, List.append_nil])
  have done := Switch.runAtPath_accounts (fun _ => body_accountable innocent ownsNothing) start ranTask
  rw [handles_eq_nil ownsNothing] at done
  exact done.perm (by rw [show Owns.handles rest = [] from rfl, List.append_nil, List.nil_append])

theorem add_accounts {version : String} {answer : Except Error Reply}
    (accounts : origin.Accounts foreign handles before.kernel)
    (ran : add request version before = (answer, after)) :
    origin.Accounts foreign handles after.kernel := by
  rcases add_ran ran with ⟨-, -, rfl⟩ | ⟨netns, found, -, ranInside, -⟩
  · exact accounts
  · exact result_accounts Device.bring_ran (fun _ => rfl) accounts ranInside

theorem check_accounts {answer : Except Error Reply}
    (accounts : origin.Accounts foreign handles before.kernel)
    (ran : check request before = (answer, after)) :
    origin.Accounts foreign handles after.kernel := by
  rcases check_ran ran with ⟨-, -, rfl⟩ | ⟨netns, found, -, ranInside, -⟩
  · exact accounts
  · exact result_accounts Device.state_ran (fun _ => rfl) accounts ranInside

theorem del_accounts {answer : Except Error Reply}
    (accounts : origin.Accounts foreign handles before.kernel)
    (ran : del request before = (answer, after)) : origin.Accounts foreign handles after.kernel := by
  rcases del_ran ran with ⟨-, -, alike⟩ | ⟨netns, -, ⟨e, opened, opening, -, alike⟩ |
    ⟨destination, opened, outcome, left, closed, opening, ranInside, closing, -⟩⟩
  · exact accounts.of_quiet alike.quiet
  · exact (Handle.openPath_accounts accounts opening).of_quiet alike.quiet
  · obtain ⟨inside, rest, ranTask, -⟩ := result_ran.mp ranInside
    have made := Handle.openPath_accounts accounts opening
    have start : origin.Accounts foreign ((destination :: handles) ++ Owns.handles ()) opened.kernel :=
      made.perm (by rw [show Owns.handles () = [] from rfl, List.append_nil]; rfl)
    have done := Switch.run_accounts (body_accountable Device.bring_ran fun _ => rfl) start
      (made.backed (List.mem_cons_self ..)) ranTask
    rw [handles_eq_nil fun _ => rfl] at done
    refine Handle.close_accounts (done.perm ?_) closing
    rw [show Owns.handles rest = [] from rfl, List.append_nil, List.nil_append]

theorem perform_accounts {version : String} {answer : Except Error Reply}
    (accounts : origin.Accounts foreign handles before.kernel)
    (ran : perform request version before = (answer, after)) :
    origin.Accounts foreign handles after.kernel := by
  unfold perform at ran
  cases command : request.command <;> rw [command] at ran
  case add => exact add_accounts accounts ran
  case del => exact del_accounts accounts ran
  case check => exact check_accounts accounts ran
  case version =>
    cases ran
    exact accounts

/-- Whatever handles there are, an invocation neither adds to them nor takes any away. -/
theorem run_accounts {stdin : Bytes} {answer : Except Error Reply}
    (accounts : origin.Accounts foreign handles before.kernel)
    (ran : run request stdin before = (answer, after)) :
    origin.Accounts foreign handles after.kernel := by
  obtain ⟨noted, -, alike, ranRest⟩ := run_ran ran
  have started := accounts.of_quiet alike.quiet
  split at ranRest
  · obtain ⟨-, rfl⟩ := ranRest
    exact started
  · obtain ⟨performed, ranPerform, rest⟩ := ranRest
    exact (perform_accounts started ranPerform).of_quiet rest.quiet

end NetSwitch.Plugin
