import NetSwitch.Proofs.Plugin.Stranding

/-! An invocation of the plugin tells of a failure to go back only if its thread is tainted when it is
over, wherever the thread was and whatever it found. -/

namespace NetSwitch

theorem Handle.close_not_restore {handle : Handle} {before after : Machine} {e : Error}
    (ran : handle.close before = (.error e, after)) : e.isRestoreFailure = false := by
  obtain ⟨errno, rfl⟩ := Handle.close_error ran
  rfl

namespace Plugin

variable {before after : Machine} {op : Op (Except NetSwitch.Error α)}

theorem run_strands [Owns α] {destination : Handle} {outcome : Outcome Empty NetSwitch.Error α}
    {own rest : σ} (innocent : Innocent op)
    (ran : Switch.run destination (body op) (before, own) = (outcome, after, rest))
    (told : Stranded outcome) : after.thread.state = .tainted := by
  obtain ⟨e, rfl, restore⟩ := told
  rcases Switch.run_ran.mp ran with
    ⟨_, entering, ⟨⟩, -⟩ | ⟨home, arrival, inner, left, entering, ranBody, leaving⟩
  · cases restore.symm.trans (Switch.enter_error entering).not_restore
  · obtain ⟨target, descriptor, location, entered⟩ := Switch.enter_entered entering
    obtain ⟨answer, ranOp, rfl, -⟩ := body_ran.mp ranBody
    obtain ⟨restored, returns, settled⟩ := Switch.leave_returns entered.owns leaving
    cases returns with
    | back location origin thread moved =>
        rcases answer with inside | value <;> cases settled
        cases restore.symm.trans ((innocent ranOp).2 _ rfl)
    | stranded errno thread failed => rw [thread]

theorem runAtPath_strands [Owns α] {path : Path} {outcome : Outcome Empty NetSwitch.Error α}
    {own rest : σ} (innocent : Innocent op)
    (ran : Switch.runAtPath path (body op) (before, own) = (outcome, after, rest))
    (told : Stranded outcome) : after.thread.state = .tainted := by
  rcases Switch.runAtPath_ran.mp ran with
    ⟨e, opening, rfl, -⟩ | ⟨destination, opened, inner, left, opening, ranRun, closing⟩
  · obtain ⟨_, ⟨⟩, restore⟩ := told
    cases restore.symm.trans (Handle.openPath_not_restore opening)
  · obtain ⟨trails, closes⟩ := Switch.closeAfter_closes closing
    rw [trails.thread]
    cases closes with
    | kept outcome => exact run_strands innocent ranRun told
    | refused value path errno =>
        obtain ⟨_, ⟨⟩, restore⟩ := told
        cases restore

theorem result_strands [Owns α] {path : Path} {answer : Except Error α} (innocent : Innocent op)
    (ran : result (Switch.runAtPath path (body op)) before = (answer, after))
    (told : TellsOfStranding answer) : after.thread.state = .tainted := by
  obtain ⟨outcome, rest, ranTask, rfl⟩ := result_ran.mp ran
  exact runAtPath_strands innocent ranTask (tells_toExcept.mp told)

variable {request : Request} {version : String} {answer : Except Error Reply}

theorem add_strands (ran : add request version before = (answer, after))
    (told : TellsOfStranding answer) : after.thread.state = .tainted := by
  rcases add_ran ran with ⟨-, ⟨text, rfl⟩, -⟩ | ⟨netns, found, -, ranInside, rfl⟩
  · cases tells_error.mp told
  · rcases found with e | ⟨⟩
    · exact result_strands Device.bring_ran ranInside (tells_error.mpr (tells_error.mp told))
    · exact absurd told not_tells_ok

theorem check_strands (ran : check request before = (answer, after))
    (told : TellsOfStranding answer) : after.thread.state = .tainted := by
  rcases check_ran ran with ⟨-, ⟨text, rfl⟩, -⟩ | ⟨netns, found, -, ranInside, rfl⟩
  · cases tells_error.mp told
  · rcases found with e | _ | _
    · exact result_strands Device.state_ran ranInside (tells_error.mpr (tells_error.mp told))
    · exact absurd told not_tells_ok
    · cases tells_error.mp told

theorem del_strands (ran : del request before = (answer, after))
    (told : TellsOfStranding answer) : after.thread.state = .tainted := by
  rcases del_ran ran with ⟨-, rfl, -⟩ | ⟨netns, -, ⟨e, opened, opening, rfl, -⟩ |
    ⟨destination, opened, outcome, left, closed, opening, ranInside, closing, rfl⟩⟩
  · exact absurd told not_tells_ok
  · exact absurd told (unopened_not_tells (Handle.openPath_not_restore opening))
  · obtain ⟨inside, rest, ranTask, rfl⟩ := result_ran.mp ranInside
    rw [(Handle.close_trails closing).thread]
    refine run_strands Device.bring_ran ranTask (tells_toExcept.mp ((tornDown_tells ?_).mp told))
    intro e failed
    exact Handle.close_not_restore (failed ▸ closing)

theorem perform_strands (ran : perform request version before = (answer, after))
    (told : TellsOfStranding answer) : after.thread.state = .tainted := by
  unfold perform at ran
  cases command : request.command <;> rw [command] at ran
  case add => exact add_strands ran told
  case del => exact del_strands ran told
  case check => exact check_strands ran told
  case version =>
    cases ran
    exact absurd told not_tells_ok

theorem invocation_strands {stdin : Bytes} (ran : run request stdin before = (answer, after))
    (told : TellsOfStranding answer) : after.thread.state = .tainted := by
  obtain ⟨noted, -, alike, ranRest⟩ := run_ran ran
  split at ranRest
  · obtain ⟨rfl, -⟩ := ranRest
    cases tells_error.mp told
  · obtain ⟨performed, ranPerform, rest⟩ := ranRest
    rw [rest.thread]
    exact perform_strands ranPerform told

end Plugin

end NetSwitch
