import NetSwitch.Proofs.Plugin.Excursion

/-! What a command of the plugin answers, from the steps that it took.

A command may fail at every step, and at several of them in one run.  `told` says which failure is
reported, and `Route` which steps there are after which.
-/

namespace NetSwitch.Plugin

open Kernel (Descriptor)

/-- A step of a command, with what it came to. -/
inductive Step where
  | openTarget (answer : Except NetSwitch.Error Handle)
  | openHome (answer : Except NetSwitch.Error Handle)
  | enter (target : Descriptor) (answer : Except Errno Unit)
  | makeSocket (answer : Except Errno Descriptor)
  | readFlags (socket : Descriptor) (answer : Except Errno UInt16)
  | writeFlags (socket : Descriptor) (flags : UInt16) (answer : Except Errno Unit)
  | closeSocket (socket : Descriptor) (answer : Except Errno Unit)
  | goBack (own : Descriptor) (answer : Except Errno Unit)
  | closeHome (home : Handle) (answer : Except NetSwitch.Error Unit)
  | closeTarget (target : Handle) (answer : Except NetSwitch.Error Unit)

/-- When the failure of a step is reported: that of going back before all others, and that of
closing the target after them. -/
inductive Turn where
  | returning
  | working
  | closing
deriving DecidableEq

namespace Step

/-- What is done in a step of a command that was given the path `netns`. -/
def Does (netns : Path) : Step → Machine → Machine → Prop
  | .openTarget answer, before, after => Handle.openPath netns before = (answer, after)
  | .openHome answer, before, after => Handle.openOwn before = (answer, after)
  | .enter target answer, before, after => Syscall.setns target before = (answer, after)
  | .makeSocket answer, before, after => Syscall.socket before = (answer, after)
  | .readFlags socket answer, before, after => ∃ field, Device.loopback.field = .ok field ∧
      Syscall.getFlags socket field before = (answer, after)
  | .writeFlags socket flags answer, before, after => ∃ field, Device.loopback.field = .ok field ∧
      Syscall.setFlags socket field flags before = (answer, after)
  | .closeSocket socket answer, before, after => Syscall.close socket before = (answer, after)
  | .goBack own answer, before, after => Syscall.setns own before = (answer, after)
  | .closeHome home answer, before, after => home.close before = (answer, after)
  | .closeTarget target answer, before, after => target.close before = (answer, after)

/-- The error that a step gives rise to if it failed.  Closing the socket and the handle of where
the thread came from gives rise to none. -/
def failure? : Step → Option NetSwitch.Error
  | .openTarget (.error e) => some e
  | .openHome (.error e) => some e
  | .enter _ (.error errno) => some (.switchFailed .enter (.os errno.byName))
  | .makeSocket (.error errno) => some (Device.socketFailure errno)
  | .readFlags _ (.error errno) => some (Device.loopback.requestFailure "SIOCGIFFLAGS" errno)
  | .writeFlags _ _ (.error errno) => some (Device.loopback.requestFailure "SIOCSIFFLAGS" errno)
  | .goBack _ (.error errno) => some (.switchFailed .restore (.os errno.byName))
  | .closeTarget _ (.error e) => some e
  | _ => none

def turn : Step → Turn
  | .goBack _ _ => .returning
  | .closeTarget _ _ => .closing
  | _ => .working

end Step

/-- The first failure among the steps of a turn. -/
def failureIn (turn : Turn) (steps : List Step) : Option NetSwitch.Error :=
  steps.findSome? fun step => if step.turn = turn then step.failure? else none

/-- The failure that is reported. -/
def told (steps : List Step) : Option NetSwitch.Error :=
  (failureIn .returning steps).or ((failureIn .working steps).or (failureIn .closing steps))

/-- Writing flags, if a state is wanted that the device is not in. -/
def writing (desired? : Option LinkState) (socket : Descriptor) (flags : UInt16) : List Step :=
  match desired? with
  | none => []
  | some desired =>
      if Device.stateOf flags = desired then []
      else [.writeFlags socket (Device.withState flags desired) (.ok ())]

/-- The steps of a request about flags that succeeds. -/
def asking (desired? : Option LinkState) (socket : Descriptor) (flags : UInt16)
    (closed : Except Errno Unit) : List Step :=
  .makeSocket (.ok socket) :: .readFlags socket (.ok flags) ::
    (writing desired? socket flags ++ [.closeSocket socket closed])

/-- The steps of a request about flags. -/
inductive Visit (desired? : Option LinkState) : List Step → Prop where
  | unmade (errno : Errno) : Visit desired? [.makeSocket (.error errno)]
  | unread (socket : Descriptor) (errno : Errno) (closed : Except Errno Unit) :
      Visit desired? [.makeSocket (.ok socket), .readFlags socket (.error errno),
        .closeSocket socket closed]
  | unwritten (socket : Descriptor) (flags : UInt16) (desired : LinkState) (errno : Errno)
      (closed : Except Errno Unit) (wanted : desired? = some desired)
      (differs : Device.stateOf flags ≠ desired) :
      Visit desired? [.makeSocket (.ok socket), .readFlags socket (.ok flags),
        .writeFlags socket (Device.withState flags desired) (.error errno), .closeSocket socket closed]
  | done (socket : Descriptor) (flags : UInt16) (closed : Except Errno Unit) :
      Visit desired? (asking desired? socket flags closed)

/-- The steps of a command. -/
inductive Route (desired? : Option LinkState) : List Step → Prop where
  | unopened (e : NetSwitch.Error) : Route desired? [.openTarget (.error e)]
  | lost (target : Handle) (e : NetSwitch.Error) (closed : Except NetSwitch.Error Unit) :
      Route desired? [.openTarget (.ok target), .openHome (.error e), .closeTarget target closed]
  | barred (target home : Handle) (goal : Descriptor) (errno : Errno)
      (closedHome closed : Except NetSwitch.Error Unit) (aims : target.descriptor? = some goal) :
      Route desired? [.openTarget (.ok target), .openHome (.ok home), .enter goal (.error errno),
        .closeHome home closedHome, .closeTarget target closed]
  | made (target home : Handle) (goal own : Descriptor) (steps : List Step)
      (restored : Except Errno Unit) (closedHome closed : Except NetSwitch.Error Unit)
      (aims : target.descriptor? = some goal) (owns : home.descriptor? = some own)
      (visit : Visit desired? steps) :
      Route desired? ([.openTarget (.ok target), .openHome (.ok home), .enter goal (.ok ())] ++
        (steps ++ [.goBack own restored, .closeHome home closedHome, .closeTarget target closed]))

/-- Every step succeeded that counts, and the flags were found. -/
def Accomplished (desired? : Option LinkState) (flags : UInt16) (steps : List Step) : Prop :=
  ∃ target home goal own socket closedSocket closedHome,
    target.descriptor? = some goal ∧ home.descriptor? = some own ∧
    steps = [.openTarget (.ok target), .openHome (.ok home), .enter goal (.ok ())] ++
      (asking desired? socket flags closedSocket ++
        [.goBack own (.ok ()), .closeHome home closedHome, .closeTarget target (.ok ())])

section

variable {desired? : Option LinkState} {steps rest : List Step} {step : Step} {turn : Turn}
variable {flags : UInt16} {socket : Descriptor} {closed : Except Errno Unit}

@[simp] theorem failureIn_nil : failureIn turn [] = none :=
  rfl

@[simp] theorem failureIn_cons : failureIn turn (step :: rest) =
    (if step.turn = turn then step.failure? else none).or (failureIn turn rest) := by
  unfold failureIn
  rw [List.findSome?_cons]
  split <;> simp_all

@[simp] theorem failureIn_append :
    failureIn turn (steps ++ rest) = (failureIn turn steps).or (failureIn turn rest) :=
  List.findSome?_append

@[simp] theorem failureIn_writing : failureIn turn (writing desired? socket flags) = none := by
  unfold writing
  split
  · rfl
  · split <;> simp [Step.failure?]

@[simp] theorem failureIn_asking : failureIn turn (asking desired? socket flags closed) = none := by
  simp [asking, Step.failure?]

theorem told_of_accomplished (accomplished : Accomplished desired? flags steps) : told steps = none := by
  obtain ⟨target, home, goal, own, socket, closedSocket, closedHome, -, -, rfl⟩ := accomplished
  simp [told, Step.failure?]

theorem Visit.failureIn_of_not_working (visit : Visit desired? steps) (other : turn ≠ .working) :
    failureIn turn steps = none := by
  cases visit with
  | done socket flags closed => exact failureIn_asking
  | _ => simp [Step.turn, other.symm]

theorem Visit.failed_or_done (visit : Visit desired? steps) :
    (∃ e, failureIn .working steps = some e) ∨
      ∃ socket flags closed, steps = asking desired? socket flags closed := by
  cases visit with
  | done socket flags closed => exact .inr ⟨socket, flags, closed, rfl⟩
  | _ => exact .inl ⟨_, rfl⟩

theorem Accomplished.unique {other : UInt16} (first : Accomplished desired? flags steps)
    (second : Accomplished desired? other steps) : flags = other := by
  obtain ⟨_, _, _, _, _, _, _, -, -, rfl⟩ := first
  obtain ⟨_, _, _, _, _, _, _, -, -, same⟩ := second
  simp only [asking, List.cons_append, List.nil_append, List.cons.injEq, Step.readFlags.injEq,
    Except.ok.injEq] at same
  exact same.2.2.2.2.1.2

/-- Nothing is reported exactly when everything succeeded that counts. -/
theorem Route.told_eq_none (route : Route desired? steps) :
    told steps = none ↔ ∃ flags, Accomplished desired? flags steps := by
  refine ⟨fun silent => ?_, fun ⟨flags, accomplished⟩ => told_of_accomplished accomplished⟩
  cases route with
  | made target home goal own steps restored closedHome closed aims owns visit =>
      rcases visit.failed_or_done with ⟨e, failed⟩ | ⟨socket, flags, closedSocket, rfl⟩
      · simp [told, Step.turn, failed] at silent
      · rcases restored with errno | ⟨⟩
        · simp [told, Step.turn, Step.failure?] at silent
        rcases closed with e | ⟨⟩
        · simp [told, Step.turn, Step.failure?] at silent
        exact ⟨flags, target, home, goal, own, socket, closedSocket, closedHome, aims, owns, rfl⟩
  | _ => simp [told, Step.turn, Step.failure?] at silent

end

/-! ### The steps of an excursion -/

variable {before after : Machine} {netns : Path} {desired? : Option LinkState}
variable {found outcome : Except NetSwitch.Error UInt16}

theorem loopback_named {e : NetSwitch.Error} : Device.loopback.field ≠ .error e := by
  intro unnamed
  cases unnamed

def failureOf : Except ε α → Option ε
  | .ok _ => none
  | .error e => some e

/-- The steps of a request about flags fit what came of it. -/
structure Heard (desired? : Option LinkState) (found : Except NetSwitch.Error UInt16)
    (steps : List Step) : Prop where
  visit : Visit desired? steps
  failed : failureIn .working steps = failureOf found
  done : ∀ flags, found = .ok flags → ∃ socket closed, steps = asking desired? socket flags closed

theorem Heard.of_asking {steps : List Step} {socket : Descriptor} {flags : UInt16}
    {closed : Except Errno Unit} (same : steps = asking desired? socket flags closed) :
    Heard desired? (.ok flags) steps := by
  subst same
  refine ⟨.done socket flags closed, failureIn_asking, fun found same => ?_⟩
  cases same
  exact ⟨socket, closed, rfl⟩

theorem heard_of_asked (netns : Path)
    (asked : Device.Asked Device.loopback desired? before after found) :
    ∃ moments, Course (Step.Does netns) before moments after ∧
      Heard desired? found (moments.map (·.step)) := by
  cases asked with
  | unmade errno making =>
      have failing : Step.Does netns (.makeSocket (.error errno)) before after := making
      exact ⟨_, .single failing, .unmade errno, rfl, by simp⟩
  | made socket made used found closed making use closing =>
      have makes : Step.Does netns (.makeSocket (.ok socket)) before made := making
      have closes : Step.Does netns (.closeSocket socket closed) used after := closing
      have around {moments : List (Moment Step)} (course : Course (Step.Does netns) made moments used) :=
        (Course.single makes).append (course.append (.single closes))
      have reads {field : Kernel.NameField} {answer : Except Errno UInt16} {left : Machine}
          (naming : Device.loopback.field = .ok field)
          (reading : Syscall.getFlags socket field made = (answer, left)) :
          Step.Does netns (.readFlags socket answer) made left := ⟨field, naming, reading⟩
      have writes {field : Kernel.NameField} {flags : UInt16} {answer : Except Errno Unit}
          {read left : Machine} (naming : Device.loopback.field = .ok field)
          (ranSet : Syscall.setFlags socket field flags read = (answer, left)) :
          Step.Does netns (.writeFlags socket flags answer) read left := ⟨field, naming, ranSet⟩
      cases use with
      | unnamed e naming same => exact absurd naming loopback_named
      | unread field errno naming reading =>
          exact ⟨_, around (.single (reads naming reading)), .unread socket errno closed, rfl, by simp⟩
      | read field flags read naming reading fits alike =>
          have silent : writing desired? socket flags = [] := by
            cases desired? with
            | none => rfl
            | some desired => exact if_pos (fits desired rfl)
          exact ⟨_, around ((Course.single (reads naming reading)).then_pause (.of_alike alike)),
            .of_asking (by rw [asking, silent]; rfl)⟩
      | unwritten field flags desired errno read naming reading wanted differs ranSet =>
          have course := (Course.single (reads naming reading)).append (.single (writes naming ranSet))
          exact ⟨_, around course, .unwritten socket flags desired errno closed wanted differs, rfl,
            by simp⟩
      | written field flags desired read wrote naming reading wanted differs ranSet alike =>
          have course := (Course.single (reads naming reading)).append (.single (writes naming ranSet))
          have wrote : writing desired? socket flags =
              [.writeFlags socket (Device.withState flags desired) (.ok ())] := by
            rw [wanted]
            exact if_neg differs
          exact ⟨_, around (course.then_pause (.of_alike alike)), .of_asking (by rw [asking, wrote]; rfl)⟩

/-- The steps of an excursion fit what it comes to. -/
structure Taken (desired? : Option LinkState) (before after : Machine)
    (outcome : Except NetSwitch.Error UInt16) (steps : List Step) : Prop where
  route : Route desired? steps
  failed : ∀ e, outcome = .error e → told steps = some e
  done : ∀ flags, outcome = .ok flags → Accomplished desired? flags steps
  kept : ∀ e, told steps = some e → after.kernel.namespaces = before.kernel.namespaces ∨
    failureIn .returning steps = some e ∨
    failureIn .working steps = none ∧ failureIn .closing steps = some e

theorem Taken.told_eq {steps : List Step} (taken : Taken desired? before after outcome steps) :
    told steps = failureOf outcome := by
  rcases outcome with e | flags
  · exact taken.failed e rfl
  · exact told_of_accomplished (taken.done flags rfl)

theorem Taken.accomplished_iff {steps : List Step} {flags : UInt16}
    (taken : Taken desired? before after outcome steps) :
    Accomplished desired? flags steps ↔ outcome = .ok flags := by
  refine ⟨fun accomplished => ?_, taken.done flags⟩
  have silent := told_of_accomplished accomplished
  rcases outcome with e | found
  · cases (taken.failed e rfl).symm.trans silent
  · rw [(taken.done found rfl).unique accomplished]

theorem closeHome_step {home : Handle} (netns : Path)
    (ran : Switch.closeHome home before = ((), after)) :
    ∃ closed moments, Course (Step.Does netns) before moments after ∧
      moments.map (·.step) = [.closeHome home closed] := by
  obtain ⟨closed, shut, closing, ranRest⟩ := Op.bind_ran.mp ran
  have closes : Step.Does netns (.closeHome home closed) before shut := closing
  rcases closed with e | ⟨⟩
  · exact ⟨_, _, (Course.single closes).then_pause (.of_emit ranRest), rfl⟩
  · cases ranRest
    exact ⟨_, _, .single closes, rfl⟩

/-- A thread that does not enter has opened nothing but the target, or its own namespace as
well. -/
theorem refused_taken {target : Handle} {opened left : Machine} {e : NetSwitch.Error}
    {closed : Except NetSwitch.Error Unit} (idle : before.thread.state = .idle)
    (opening : Handle.openPath netns before = (.ok target, opened))
    (entering : Switch.enter target opened = (.error e, left))
    (closing : target.close left = (closed, after)) :
    ∃ moments, Course (Step.Does netns) before moments after ∧
      Taken desired? before after (.error e) (moments.map (·.step)) := by
  have opens : Step.Does netns (.openTarget (.ok target)) before opened := opening
  have closes : Step.Does netns (.closeTarget target closed) left after := closing
  have kept : after.kernel.namespaces = before.kernel.namespaces :=
    (Handle.close_namespaces closing).trans
      (((Switch.enter_calls target).namespaces entering).trans (Handle.openPath_namespaces opening))
  have around {moments : List (Moment Step)} (course : Course (Step.Does netns) opened moments left) :=
    (Course.single opens).append (course.append (.single closes))
  rcases Handle.openPath_ran opening with ⟨_, failed, -⟩ | ⟨_, descriptor, _, -, ⟨⟩, owns, -, makes⟩
  · cases failed
  have ready : opened.thread.state = .idle := by rw [makes.works.thread, idle]
  cases Switch.enter_error entering with
  | reentrant state same => cases ready.symm.trans state
  | tainted state same => cases ready.symm.trans state
  | closed _ missing same => cases owns.symm.trans missing
  | lost _ goal _ aims looking =>
      have looks : Step.Does netns (.openHome (.error e)) opened left := looking
      refine ⟨_, around (.single looks), .lost target e closed, ?_, by simp, fun _ _ => .inl kept⟩
      simp [told, Step.turn, Step.failure?]
  | barred goal home found moved noted errno event _ aims looking moving noting leaving =>
      have looks : Step.Does netns (.openHome (.ok home)) opened found := looking
      have moves : Step.Does netns (.enter goal (.error errno)) found moved := moving
      obtain ⟨closedHome, moments, leaves, steps⟩ := closeHome_step netns leaving
      have course := (Course.single looks).append
        (((Course.single moves).then_pause (.of_emit noting)).append leaves)
      refine ⟨_, around course, ?_⟩
      simp only [List.map_append, List.map_cons, List.map_nil, steps]
      refine ⟨.barred target home goal errno closedHome closed aims, ?_, by simp, fun _ _ => .inl kept⟩
      simp [told, Step.turn, Step.failure?]

theorem failures_of_made {target home : Handle} {goal own : Descriptor} {steps : List Step}
    {report : Except Errno Unit} {closedHome closed : Except NetSwitch.Error Unit} {turn : Turn}
    (visit : Visit desired? steps) :
    failureIn turn ([.openTarget (.ok target), .openHome (.ok home), .enter goal (.ok ())] ++
        (steps ++ [.goBack own report, .closeHome home closedHome, .closeTarget target closed])) =
      match turn with
      | .returning => failureOf (report.mapError fun errno => .switchFailed .restore (.os errno.byName))
      | .working => failureIn .working steps
      | .closing => failureOf closed := by
  cases turn with
  | returning =>
      rw [failureIn_append, failureIn_append, visit.failureIn_of_not_working (by simp)]
      rcases report with errno | ⟨⟩ <;> rfl
  | working =>
      simp [Step.turn, Step.failure?]
  | closing =>
      rw [failureIn_append, failureIn_append, visit.failureIn_of_not_working (by simp)]
      rcases closed with e | ⟨⟩ <;> rfl

theorem Excursion.taken (excursion : Excursion netns desired? before after outcome)
    (idle : before.thread.state = .idle) :
    ∃ moments, Course (Step.Does netns) before moments after ∧
      Taken desired? before after outcome (moments.map (·.step)) := by
  cases excursion with
  | unopened e opening =>
      have opens : Step.Does netns (.openTarget (.error e)) before after := opening
      refine ⟨_, .single opens, .unopened e, ?_, by simp, fun _ _ => .inl (Handle.openPath_namespaces opening)⟩
      simp [told, Step.turn, Step.failure?]
  | refused e target opened left closed opening entering closing =>
      exact refused_taken idle opening entering closing
  | made target home opened entered left back noted found restored closed opening entering asking
      restoring alike closing =>
      obtain ⟨-, goal, looked, moved, aims, looking, moving, rfl⟩ := Switch.enter_ok_iff.mp entering
      obtain ⟨_, own, _, parted⟩ := Switch.enter_entered entering
      obtain ⟨report, returned, marked, returning, marking, leaving, rfl⟩ :=
        Switch.restore_steps parted.owns restoring
      obtain ⟨closedHome, lastMoments, leaves, lastSteps⟩ := closeHome_step netns leaving
      obtain ⟨moments, course, heard⟩ := heard_of_asked netns asking
      have opens : Step.Does netns (.openTarget (.ok target)) before opened := opening
      have looks : Step.Does netns (.openHome (.ok home)) opened looked := looking
      have enters : Step.Does netns (.enter goal (.ok ())) looked moved := moving
      have returns : Step.Does netns (.goBack own report) left returned := returning
      have closes : Step.Does netns (.closeTarget target closed) noted after := closing
      have pause : moved.Pauses (Switch.arrived target home moved) := ⟨rfl, rfl, rfl⟩
      have outward := (Course.single opens).append
        ((Course.single looks).append ((Course.single enters).then_pause pause))
      have homeward := ((Course.single returns).then_pause marking).append
        ((leaves.then_pause (.of_alike alike)).append (.single closes))
      suffices taken : Taken desired? before after (settled found _ closed)
          ([.openTarget (.ok target), .openHome (.ok home), .enter goal (.ok ())] ++
            (moments.map (·.step) ++
              [.goBack own report, .closeHome home closedHome, .closeTarget target closed])) from
        ⟨_, outward.append (course.append homeward), by simpa [lastSteps] using taken⟩
      have answered := made_answered opening entering asking restoring alike closing
      refine ⟨.made target home goal own _ report closedHome closed aims parted.owns heard.visit,
        ?_, ?_, ?_⟩
      · intro e failed
        simp only [told, failures_of_made heard.visit, heard.failed]
        rcases report with errno | ⟨⟩ <;> rcases found with failure | flags <;>
          rcases closed with failure | ⟨⟩ <;> cases failed <;> rfl
      · intro flags succeeded
        obtain ⟨rfl, restored, rfl⟩ := settled_eq_ok.mp succeeded
        obtain ⟨socket, closedSocket, asked⟩ := heard.done flags rfl
        rcases report with errno | ⟨⟩
        · cases restored
        · exact ⟨target, home, goal, own, socket, closedSocket, closedHome, aims, parted.owns, by rw [asked]⟩
      · intro e failed
        simp only [told, failures_of_made heard.visit, heard.failed] at failed ⊢
        rcases found with failure | flags
        · exact .inl (answered.failed failure rfl)
        rcases report with errno | ⟨⟩
        · exact .inr (.inl failed)
        · exact .inr (.inr ⟨rfl, failed⟩)

/-! ### Answers -/

section Answers

variable {request : Request} {stdin : Bytes} {answer : Except Error Reply}

theorem run_taken (acts : request.command = .add ∨ request.command = .check)
    (idle : before.thread.state = .idle) (supported : (Configuration.read stdin).isSupported = true)
    (given : request.netns? = some netns) (ran : run request stdin before = (answer, after)) :
    ∃ outcome moments, Course (Step.Does netns) before moments after ∧
      Taken request.command.desired? before after outcome (moments.map (·.step)) ∧
      (∀ flags, outcome = .ok flags → Reached netns request.command.desired? before after flags) ∧
      (request.command.desired? = none → after.kernel.namespaces = before.kernel.namespaces) ∧
      answer = replyTo request.command (Configuration.read stdin).version netns outcome := by
  rcases run_excursion ran with
    ⟨version | unsupported | missing, -⟩ |
    ⟨path, outcome, noted, left, -, -, there, alike, excursion, rest, replied⟩
  · rcases acts with command | command <;> cases command.symm.trans version
  · cases supported.symm.trans unsupported
  · cases given.symm.trans missing
  cases given.symm.trans there
  obtain ⟨moments, course, taken⟩ := excursion.taken (by rw [alike.thread, idle])
  refine ⟨outcome, moments, (course.after_pause (.of_alike alike)).then_pause (.of_alike rest),
    ?_, ?_, ?_, ?_⟩
  · refine ⟨taken.route, taken.failed, taken.done, fun e failed => ?_⟩
    rw [rest.kernel, ← alike.kernel]
    exact taken.kept e failed
  · intro flags same
    subst same
    exact excursion.reached.of_alike alike rest
  · intro reading
    rw [reading] at excursion
    rw [rest.kernel, excursion.spares, alike.kernel]
  · rcases replied with replied | ⟨del, -⟩
    · exact replied
    · rcases acts with command | command <;> cases command.symm.trans del

/-- What ADD answers. -/
structure Added (version : String) (netns : Path) (before after : Machine)
    (answer : Except Error Reply) (steps : List Step) : Prop where
  route : Route (some .up) steps
  answered : answer = match told steps with
    | none => .ok (.add (AddReport.loopback version netns))
    | some e => .error (.library e)
  exactly : answer = .ok (.add (AddReport.loopback version netns)) ↔
    ∃ flags, Accomplished (some .up) flags steps
  up : answer = .ok (.add (AddReport.loopback version netns)) →
    ∃ name flags, before.kernel.lead? before.thread.location netns = some name ∧
      after.kernel.flags? name (Bytes.ofString Device.loopback.name) = some flags ∧
      Device.stateOf flags = .up
  kept : ∀ e, answer = .error (.library e) → after.kernel.namespaces = before.kernel.namespaces ∨
    failureIn .returning steps = some e ∨
    failureIn .working steps = none ∧ failureIn .closing steps = some e

/-- What CHECK answers. -/
structure Checked (netns : Path) (before after : Machine) (answer : Except Error Reply)
    (steps : List Step) : Prop where
  route : Route none steps
  failed : ∀ e, answer = .error (.library e) ↔ told steps = some e
  up : answer = .ok .empty ↔ ∃ flags, Accomplished none flags steps ∧ Device.stateOf flags = .up
  down : answer = .error (.checkFailed Device.loopback.name .down) ↔
    ∃ flags, Accomplished none flags steps ∧ Device.stateOf flags = .down
  read : ∀ flags, Accomplished none flags steps →
    ∃ name, before.kernel.lead? before.thread.location netns = some name ∧
      before.kernel.flags? name (Bytes.ofString Device.loopback.name) = some flags
  kept : after.kernel.namespaces = before.kernel.namespaces

theorem run_added (command : request.command = .add) (idle : before.thread.state = .idle)
    (supported : (Configuration.read stdin).isSupported = true)
    (given : request.netns? = some netns) (ran : run request stdin before = (answer, after)) :
    ∃ moments, Course (Step.Does netns) before moments after ∧
      Added (Configuration.read stdin).version netns before after answer (moments.map (·.step)) := by
  obtain ⟨outcome, moments, course, taken, reached, -, rfl⟩ :=
    run_taken (.inl command) idle supported given ran
  rw [command] at taken reached ⊢
  replace taken : Taken (some .up) before after outcome _ := taken
  refine ⟨moments, course, taken.route, ?_, ?_, ?_, ?_⟩
  · rw [taken.told_eq]
    rcases outcome with e | flags <;> rfl
  · rw [← taken.route.told_eq_none, taken.told_eq]
    rcases outcome with e | flags <;> simp [replyTo, success, failureOf]
  · intro added
    rcases outcome with e | flags
    · cases added
    · exact (reached flags rfl).state
  · intro e failed
    rcases outcome with cause | flags
    · cases failed
      exact taken.kept _ taken.told_eq
    · cases failed

theorem run_checked (command : request.command = .check) (idle : before.thread.state = .idle)
    (supported : (Configuration.read stdin).isSupported = true)
    (given : request.netns? = some netns) (ran : run request stdin before = (answer, after)) :
    ∃ moments, Course (Step.Does netns) before moments after ∧
      Checked netns before after answer (moments.map (·.step)) := by
  obtain ⟨outcome, moments, course, taken, reached, kept, rfl⟩ :=
    run_taken (.inr command) idle supported given ran
  rw [command] at taken reached kept ⊢
  replace taken : Taken none before after outcome _ := taken
  refine ⟨moments, course, taken.route, ?_, ?_, ?_, ?_, kept rfl⟩
  · intro e
    rw [taken.told_eq]
    rcases outcome with cause | flags
    · simp [replyTo, failureOf]
    · cases state : Device.stateOf flags <;> simp [replyTo, success, failureOf, state]
  · simp only [taken.accomplished_iff]
    rcases outcome with cause | flags
    · simp [replyTo]
    · cases state : Device.stateOf flags <;> simp [replyTo, success, state]
  · simp only [taken.accomplished_iff]
    rcases outcome with cause | flags
    · simp [replyTo]
    · cases state : Device.stateOf flags <;> simp [replyTo, success, state]
  · intro flags accomplished
    obtain ⟨name, led, read, -⟩ := reached flags (taken.accomplished_iff.mp accomplished)
    exact ⟨name, led, read⟩

end Answers

/-- ADD and CHECK answer truthfully, whatever fails on the way: they report success exactly if
every step succeeded that counts, and the device is then as they say; and of several failures they
report the one whose turn it is. -/
theorem answers_truthful (request : Request) (stdin : Bytes) (netns : Path) (before : Machine)
    (idle : before.thread.state = .idle) (supported : (Configuration.read stdin).isSupported = true)
    (given : request.netns = some netns) (proper : netns ≠ []) :
    (request.command = .add → ∃ answer after moments, run request stdin before = (answer, after) ∧
      Course (Step.Does netns) before moments after ∧
      Added (Configuration.read stdin).version netns before after answer (moments.map (·.step))) ∧
    (request.command = .check → ∃ answer after moments, run request stdin before = (answer, after) ∧
      Course (Step.Does netns) before moments after ∧
      Checked netns before after answer (moments.map (·.step))) := by
  have there := netns?_of_given given proper
  cases ran : run request stdin before with
  | mk answer after =>
      refine ⟨fun command => ?_, fun command => ?_⟩
      · obtain ⟨moments, course, added⟩ := run_added command idle supported there ran
        exact ⟨answer, after, moments, rfl, course, added⟩
      · obtain ⟨moments, course, checked⟩ := run_checked command idle supported there ran
        exact ⟨answer, after, moments, rfl, course, checked⟩

theorem answers_truthful_neighboured :
    neighboured.thread.state = .idle ∧ (Configuration.read []).isSupported = true ∧
      (∃ answer after moments,
        run { command := .add, netns := some (Bytes.ofString "/pod") } [] neighboured = (answer, after) ∧
        Course (Step.Does (Bytes.ofString "/pod")) neighboured moments after ∧
        Added "1.0.0" (Bytes.ofString "/pod") neighboured after answer (moments.map (·.step))) ∧
      (run { command := .check, netns := some (Bytes.ofString "/pod") } [] neighboured).1 =
        .error (.checkFailed "lo" .down) := by
  have supported : (Configuration.read []).isSupported = true := by decide
  refine ⟨rfl, supported, ?_, rfl⟩
  exact (answers_truthful { command := .add, netns := some (Bytes.ofString "/pod") } []
    (Bytes.ofString "/pod") neighboured rfl supported rfl (by decide)).1 rfl

end NetSwitch.Plugin
