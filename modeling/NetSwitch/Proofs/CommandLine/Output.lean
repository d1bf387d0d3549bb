import NetSwitch.CommandLine.Run
import NetSwitch.Proofs.Json.Writer
import NetSwitch.Proofs.Plugin.Run

/-! What a run leaves on standard output: nothing, or one line with the report of its outcome. -/

namespace NetSwitch

namespace Plugin

variable {request : Request} {before after : Machine} {reply : Reply} {version : String}

/-- A reply is one for a command, and names a version if it says anything. -/
def Reply.Answers (command : Command) (version : String) : Reply → Prop
  | .add report => command = .add ∧ report.cniVersion = version
  | .version report => command = .version ∧ report.cniVersion = version
  | .empty => command = .del ∨ command = .check

theorem tornDown_reply {outcome : Except Error Unit} {closed : Except NetSwitch.Error Unit}
    (replied : tornDown outcome closed = .ok reply) : reply = .empty := by
  rcases outcome with e | ⟨⟩ <;> rcases closed with e' | ⟨⟩ <;> cases replied
  rfl

theorem unopened_reply {e : NetSwitch.Error} (replied : unopened e = .ok reply) : reply = .empty := by
  cases e <;> cases replied
  rfl

theorem perform_answers (ran : perform request version before = (.ok reply, after)) :
    reply.Answers request.command version := by
  unfold perform at ran
  cases asked : request.command with
  | add =>
      rw [asked] at ran
      rcases add_ran ran with ⟨-, ⟨text, failed⟩, -⟩ | ⟨netns, found, -, -, answered⟩
      · cases failed
      · cases found <;> cases answered
        exact ⟨rfl, rfl⟩
  | del =>
      rw [asked] at ran
      rcases del_ran ran with ⟨-, answered, -⟩ | ⟨netns, -, ⟨e, opened, -, answered, -⟩ |
        ⟨destination, opened, outcome, left, closed, -, -, -, answered⟩⟩
      · cases answered
        exact .inl rfl
      · rw [unopened_reply answered.symm]
        exact .inl rfl
      · rw [tornDown_reply answered.symm]
        exact .inl rfl
  | check =>
      rw [asked] at ran
      rcases check_ran ran with ⟨-, ⟨text, failed⟩, -⟩ | ⟨netns, found, -, -, answered⟩
      · cases failed
      · rcases found with e | _ | _ <;> cases answered
        exact .inr rfl
  | version =>
      rw [asked] at ran
      cases ran
      exact ⟨rfl, rfl⟩

theorem run_result (request : Request) (stdin : Bytes) (before : Machine) :
    ∃ answer after, run request stdin before = (answer, after) :=
  ⟨_, _, rfl⟩

/-- Replies are in the version that the configuration asks for. -/
theorem run_answers {stdin : Bytes} (ran : run request stdin before = (.ok reply, after)) :
    reply.Answers request.command (Configuration.read stdin).version := by
  obtain ⟨noted, -, -, steps⟩ := run_ran ran
  split at steps
  · cases steps.1
  · obtain ⟨performed, ranPerform, -⟩ := steps
    exact perform_answers ranPerform

end Plugin

namespace CommandLine

open Plugin (Reply Command AddReport VersionReport ErrorReport Configuration defaultVersion)

variable {before after : Machine} {version : String}

/-- A text that is one JSON object followed by a newline, and is read as some report. -/
structure Line [Json.Wire α] (report : α) (stdout : String) (line : Bytes) : Prop where
  ends : Bytes.ofString stdout = line ++ [0x0A]
  object : Json.Object line
  inline : ∀ b ∈ line, ¬ b < 0x20
  isText : (Bytes.ofString stdout).toString? = some stdout
  read : Json.decode (Bytes.ofString stdout) = .ok report

/-- How a command ends by the protocol, by its result and the version that was asked for. -/
inductive Exit.Conveys (command : Command) (version : String) : Except Plugin.Error Reply → Exit → Prop where
  | added {report : AddReport} {stdout : String} {line : Bytes} (asked : command = .add)
      (spoken : report.cniVersion = version) (told : Line report stdout line) :
      Conveys command version (.ok (.add report)) ⟨0, stdout⟩
  | versions {report : VersionReport} {stdout : String} {line : Bytes} (asked : command = .version)
      (spoken : report.cniVersion = version) (told : Line report stdout line) :
      Conveys command version (.ok (.version report)) ⟨0, stdout⟩
  | done (asked : command = .del ∨ command = .check) : Conveys command version (.ok .empty) ⟨0, ""⟩
  | failed {e : Plugin.Error} {stdout : String} {line : Bytes}
      (told : Line (ErrorReport.ofError version e) stdout line) :
      Conveys command version (.error e) ⟨1, stdout⟩

theorem line_encode [Json.Wire α] {members : Json.Members} (isRecord : Json.Wire.shape α = .record members)
    (legible : (Json.Wire.shape α).isLegible = true) (report : α) :
    Line report (Json.encode report ++ "\n") (Bytes.ofString (Json.encode report)) := by
  have ends :
      Bytes.ofString (Json.encode report ++ "\n") = Bytes.ofString (Json.encode report) ++ [0x0A] := by
    rw [Bytes.ofString, String.toList_append, List.flatMap_append]
    rfl
  refine ⟨ends, Json.encode_object isRecord legible report, Json.encode_inline report,
    Bytes.toString?_ofString _, ?_⟩
  rw [ends]
  exact Json.decode_encode legible report (List.forall_mem_singleton.mpr rfl)

theorem failure_line (version : String) (e : Plugin.Error) :
    ∃ line, Line (ErrorReport.ofError version e) (Exit.failure version e).stdout line :=
  ⟨_, line_encode rfl rfl _⟩

end CommandLine

end NetSwitch
