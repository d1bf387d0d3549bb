import NetSwitch.Proofs.CommandLine.Output
import NetSwitch.Proofs.Plugin.Configuration

/-! The version that a configuration asks for, and whether the plugin acts on it. -/

namespace NetSwitch

namespace CommandLine

open Plugin (Configuration Reply Request defaultVersion supportedVersions)
open Json (Blank Body Decodable Entry Field Sparing Spelled Value objectText quoted)

variable {stdin : Bytes} {entries : List Entry} {fields : List Field} {name version : String}

/-- What acting on a version means: replies and failures are in it, and nothing is done in one that
is not spoken. -/
structure Honoured (stdin : Bytes) (version : String) : Prop where
  read : (Configuration.read stdin).version = version
  replies : ∀ (request : Request) (before after : Machine) (reply : Reply),
    Plugin.run request stdin before = (.ok reply, after) → reply.Answers request.command version
  failures : ∀ (request : Request) (before after : Machine) (e : Plugin.Error),
    Plugin.run request stdin before = (.error e, after) →
      (runInvocation request stdin before).1 = .failure version e
  refusals : ∀ (request : Request) (before : Machine), version ∉ supportedVersions →
    request.command ≠ .version → ∃ after,
      Plugin.run request stdin before = (.error (.incompatibleVersion version), after) ∧ before.Alike after

theorem honoured_of_read (read : (Configuration.read stdin).version = version) : Honoured stdin version where
  read := read
  replies request before after reply ran := read ▸ Plugin.run_answers ran
  failures request before after e ran := by
    rw [runInvocation, Op.bind_apply, ran, ← read]
    rfl
  refusals request before unspoken acts := by
    have refused : request.command ≠ .version ∧ !(Configuration.read stdin).isSupported := by
      refine ⟨acts, ?_⟩
      simpa [Configuration.isSupported, read] using unspoken
    obtain ⟨answer, after, ran⟩ := Plugin.run_result request stdin before
    obtain ⟨noted, -, alike, steps⟩ := Plugin.run_ran ran
    rw [if_pos refused, read] at steps
    obtain ⟨rfl, rfl⟩ := steps
    exact ⟨after, ran, alike⟩

/-- A text is a JSON object that asks for a version: of its members, which may be any, one names the
version by a string. -/
structure Asks (stdin : Bytes) (fields : List Field) (version : String) : Prop where
  text : ∃ lead blanks trail, Blank lead ∧ Blank blanks ∧ Blank trail ∧
    stdin = lead ++ (objectText blanks fields ++ trail)
  keys : ∀ field ∈ fields, Body field.key
  values : ∀ field ∈ fields, Value field.value.text
  once : ∃ before field after body, fields = before ++ field :: after ∧
    Spelled field.key "cniVersion".toList ∧ field.value.text = quoted body ∧ Spelled body version.toList ∧
    ∀ other ∈ before ++ after, ¬ Spelled other.key "cniVersion".toList

/-- What goes with the version can be read: all keys can be decoded, and a name and a type are there
once at most, each as a string of characters or null. -/
def Readable (fields : List Field) : Prop :=
  ∃ entries, fields = entries.map Entry.field ∧ Sparing "name" entries ∧ Sparing "type" entries

/-- The entry of the only member with a name. -/
theorem filter_of_once {before after : List Field} {field : Field}
    (isFields : entries.map Entry.field = before ++ field :: after) (key : Spelled field.key name.toList)
    (others : ∀ other ∈ before ++ after, ¬ Spelled other.key name.toList) :
    ∃ entry : Entry, entry.field = field ∧ entries.filter (·.name = name) = [entry] := by
  obtain ⟨front, rest, rfl, rfl, isRest⟩ := List.map_eq_append_iff.mp isFields
  obtain ⟨entry, back, rfl, rfl, rfl⟩ := List.map_eq_cons_iff.mp isRest
  have named : entry.name = name := String.toList_inj.mp (entry.spelled.unique key)
  have unnamed (other : Entry) (mem : other ∈ front ∨ other ∈ back) : other.name ≠ name := by
    rintro rfl
    refine others other.field ?_ other.spelled
    rcases mem with mem | mem
    · exact List.mem_append_left _ (List.mem_map_of_mem mem)
    · exact List.mem_append_right _ (List.mem_map_of_mem mem)
  refine ⟨entry, rfl, ?_⟩
  rw [List.filter_append, List.filter_cons_of_pos (by simpa using named)]
  rw [List.filter_eq_nil_iff.mpr fun other mem => by simpa using unnamed other (.inl mem),
    List.filter_eq_nil_iff.mpr fun other mem => by simpa using unnamed other (.inr mem), List.nil_append]

theorem read_asked (asks : Asks stdin fields version) (readable : Readable fields) :
    (Configuration.read stdin).version = version := by
  obtain ⟨lead, blanks, trail, before, blank, after, rfl⟩ := asks.text
  obtain ⟨front, field, back, body, isFields, key, text, spelled, others⟩ := asks.once
  obtain ⟨entries, rfl, names, types⟩ := readable
  obtain ⟨entry, rfl, only⟩ := filter_of_once isFields key others
  obtain ⟨name, saysName⟩ := Configuration.says_of_sparing names
  obtain ⟨type, saysType⟩ := Configuration.says_of_sparing types
  have given : Configuration.texts entries "cniVersion" = [quoted body] := by
    rw [Configuration.texts, only, List.map_singleton]
    exact congrArg (fun text => [text]) text
  have said : Configuration.Said entries ⟨some version, name, type⟩ :=
    ⟨.string given spelled, saysName, saysType⟩
  have values (entry : Entry) (mem : entry ∈ entries) : Value entry.text :=
    asks.values entry.field (List.mem_map_of_mem mem)
  rw [Configuration.read_said said values before blank after]
  rfl

/-- A key or another member that cannot be read spoils the whole configuration. -/
theorem read_spoiled (asks : Asks stdin fields version) (spoiled : ¬ Readable fields) :
    Configuration.read stdin = {} := by
  obtain ⟨lead, blanks, trail, before, blank, -, rfl⟩ := asks.text
  refine Configuration.read_spoiled asks.keys asks.values before blank ?_
  rintro ⟨entries, isFields, sparing⟩
  exact spoiled ⟨entries, isFields, sparing "name" (by decide), sparing "type" (by decide)⟩

/-- The version that is asked for decides as long as what goes with it can be read: the keys, and the
name and the type.  Otherwise the plugin acts on the version that is taken without a configuration.
No other member matters. -/
theorem version_honoured (asks : Asks stdin fields version) :
    (Readable fields → Honoured stdin version) ∧ (¬ Readable fields → Honoured stdin defaultVersion) := by
  constructor
  · intro readable
    exact honoured_of_read (read_asked asks readable)
  · intro spoiled
    have read : Configuration.read stdin = {} := read_spoiled asks spoiled
    exact honoured_of_read (by rw [read]; rfl)

/-- A configuration that asks for version 0.4.0 and has a name, whatever that is. -/
def named (name : Bytes) : List Field :=
  [(Entry.written "cniVersion" (Json.writeText "0.4.0")).field,
    { (Entry.written "name" []).field with value := .only name }]

def namedText (name : Bytes) : Bytes :=
  objectText [] (named name)

theorem asks_named {name : Bytes} (isValue : Value name) : Asks (namedText name) (named name) "0.4.0" where
  text := ⟨[], [], [], nofun, nofun, nofun, by rw [List.append_nil, List.nil_append, namedText]⟩
  keys := List.forall_mem_cons.mpr ⟨(Json.spelled_inner _).isBody,
    List.forall_mem_cons.mpr ⟨(Json.spelled_inner _).isBody, nofun⟩⟩
  values := by
    have version : Value (Json.utf8 (Json.writeText "0.4.0")) :=
      Json.utf8_writeText _ ▸ .string (Json.spelled_inner _).isBody
    exact List.forall_mem_cons.mpr ⟨version, List.forall_mem_cons.mpr ⟨isValue, nofun⟩⟩
  once := by
    refine ⟨[], _, _, Json.inner "0.4.0", rfl, Json.spelled_inner _, Json.utf8_writeText _,
      Json.spelled_inner _, List.forall_mem_cons.mpr ⟨fun spelled => ?_, nofun⟩⟩
    exact absurd (spelled.unique (Json.spelled_inner "name")) (by decide)

theorem readable_named {name : Bytes} (decodable : Decodable name) : Readable (named name) := by
  refine ⟨[.written "cniVersion" (Json.writeText "0.4.0"),
    ⟨"name", { key := Json.inner "name", value := .only name }, Json.spelled_inner _⟩], rfl,
    ⟨Nat.le_refl 1, ?_⟩, ⟨Nat.zero_le 1, ?_⟩⟩
  · exact List.forall_mem_cons.mpr ⟨fun other => absurd other (by decide),
      List.forall_mem_cons.mpr ⟨fun _ => decodable, nofun⟩⟩
  · exact List.forall_mem_cons.mpr ⟨fun other => absurd other (by decide),
      List.forall_mem_cons.mpr ⟨fun other => absurd (show "name" = "type" from other) (by decide), nofun⟩⟩

theorem version_honoured_named :
    Asks (namedText (quoted (Json.inner "pod"))) (named (quoted (Json.inner "pod"))) "0.4.0" ∧
      Readable (named (quoted (Json.inner "pod"))) ∧
      Honoured (namedText (quoted (Json.inner "pod"))) "0.4.0" := by
  have spelled := Json.spelled_inner "pod"
  have asks := asks_named (.string spelled.isBody)
  have readable := readable_named (.inr ⟨_, _, rfl, spelled⟩)
  exact ⟨asks, readable, (version_honoured asks).1 readable⟩

theorem version_overridden :
    ¬ ∀ (stdin : Bytes) (fields : List Field) (version : String), Asks stdin fields version →
      (Configuration.read stdin).version = version := by
  intro honours
  have seven : Value [0x37] := .whole (.digits rfl (by decide) (List.forall_mem_nil _))
  have read : (Configuration.read (namedText [0x37])).version = "1.0.0" := rfl
  exact absurd (read.symm.trans (honours _ _ _ (asks_named seven))) (by decide)

end CommandLine

end NetSwitch
