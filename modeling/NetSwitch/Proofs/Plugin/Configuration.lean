import NetSwitch.Plugin.Configuration
import NetSwitch.Proofs.Json.Accepted
import NetSwitch.Proofs.Json.Writer

/-! What is read from a network configuration: the three members that are looked for, and nothing of
what stands beside them or of how the text is laid out. -/

namespace NetSwitch.Plugin.Configuration

open Json (Blank Body Entry Field Given Members Shape Sparing Spelled Value nullWord objectText quoted)

variable {entries others : List Entry} {fields : List Field} {lead blanks trail text other : Bytes}
  {name : String} {value : Option String} {conf : Configuration}

/-- The members that are looked for. -/
def known : List String :=
  ["cniVersion", "name", "type"]

/-! ### What the members of an object say -/

/-- The values that are given under a name. -/
def texts (entries : List Entry) (name : String) : List Bytes :=
  (entries.filter (·.name = name)).map Entry.text

/-- What an object says under a name.  A null says as little as no member at all. -/
inductive Says (entries : List Entry) (name : String) : Option String → Prop where
  | absent (given : texts entries name = []) : Says entries name none
  | null (given : texts entries name = [nullWord]) : Says entries name none
  | string {body : Bytes} {value : String} (given : texts entries name = [quoted body])
      (spelled : Spelled body value.toList) : Says entries name (some value)

/-- A configuration is what an object says. -/
structure Said (entries : List Entry) (conf : Configuration) : Prop where
  cniVersion : Says entries "cniVersion" conf.cniVersion
  name : Says entries "name" conf.name
  type : Says entries "type" conf.type

/-- A member that is there once at most, as a string or null, says something. -/
theorem says_of_sparing (sparing : Sparing name entries) : ∃ value, Says entries name value := by
  obtain ⟨once, decodable⟩ := sparing
  cases given : texts entries name with
  | nil => exact ⟨none, .absent given⟩
  | cons found more =>
      have length : (texts entries name).length ≤ 1 := by simpa [texts] using once
      have alone : more = [] := by
        rw [given, List.length_cons] at length
        exact List.eq_nil_of_length_eq_zero (by omega)
      subst alone
      have mem : found ∈ texts entries name := given ▸ List.mem_singleton_self found
      obtain ⟨entry, named, rfl⟩ := List.mem_map.mp mem
      obtain ⟨mem, named⟩ := List.mem_filter.mp named
      rcases decodable entry mem (of_decide_eq_true named) with null | ⟨body, cs, isString, spelled⟩
      · exact ⟨none, .null (null ▸ given)⟩
      · refine ⟨some (String.ofList cs), .string (isString ▸ given) ?_⟩
        rwa [String.toList_ofList]

theorem said_of_sparing (sparing : ∀ name ∈ known, Sparing name entries) : ∃ conf, Said entries conf := by
  obtain ⟨version, saysVersion⟩ := says_of_sparing (sparing "cniVersion" (by decide))
  obtain ⟨name, saysName⟩ := says_of_sparing (sparing "name" (by decide))
  obtain ⟨type, saysType⟩ := says_of_sparing (sparing "type" (by decide))
  exact ⟨⟨version, name, type⟩, saysVersion, saysName, saysType⟩

theorem Says.given (stated : Says entries name value) :
    Given (fun value text => (Shape.option .text).Spells value text) (some none) value
      (entries.filter (·.name = name)) := by
  cases stated with
  | absent given =>
      rw [List.map_eq_nil_iff.mp given]
      rfl
  | null given =>
      obtain ⟨entry, named, isNull⟩ := List.map_eq_singleton_iff.mp given
      rw [named]
      exact isNull
  | string given spelled =>
      obtain ⟨entry, named, isString⟩ := List.map_eq_singleton_iff.mp given
      rw [named]
      exact ⟨_, isString, spelled⟩

theorem filter_other {other : String} (different : name ≠ other) :
    (entries.filter (·.name ≠ other)).filter (·.name = name) = entries.filter (·.name = name) := by
  rw [List.filter_filter]
  refine List.filter_congr fun entry _ => ?_
  by_cases named : entry.name = name <;> simp [named, different]

/-- What an object says is what its text spells, as far as the reader is concerned. -/
theorem Said.spells (said : Said entries conf) (values : ∀ entry ∈ entries, Value entry.text)
    (blank : Blank blanks) :
    (Json.Wire.shape Configuration).Spells (Json.Wire.toValue conf)
      (objectText blanks (entries.map Entry.field)) := by
  refine .inr ⟨blanks, entries, blank, rfl, said.cniVersion.given, ?_, ?_, ?_⟩
  · rw [filter_other (by decide)]
    exact said.name.given
  · rw [filter_other (by decide), filter_other (by decide)]
    exact said.type.given
  · intro entry mem
    simp only [List.mem_filter] at mem
    exact values entry mem.1.1.1

theorem read_said (said : Said entries conf) (values : ∀ entry ∈ entries, Value entry.text)
    (before : Blank lead) (blank : Blank blanks) (after : Blank trail) :
    read (lead ++ (objectText blanks (entries.map Entry.field) ++ trail)) = conf := by
  have decoded := Json.decode_spelled (α := Configuration) rfl (said.spells values blank) before after
  rw [read, decoded]

/-! ### What spoils a configuration -/

/-- Nothing is read unless every key has a name and each of the three members is there once at most, as
a string or null. -/
theorem read_spoiled (keys : ∀ field ∈ fields, Body field.key)
    (values : ∀ field ∈ fields, Value field.value.text) (before : Blank lead) (blank : Blank blanks)
    (spoiled : ¬ ∃ entries, fields = entries.map Entry.field ∧ ∀ name ∈ known, Sparing name entries) :
    read (lead ++ (objectText blanks fields ++ trail)) = {} := by
  unfold read
  split
  · next conf decodes =>
      obtain ⟨record, parses, -⟩ := Json.map_ok.mp decodes
      have areTexts : (Members.cons "cniVersion" (.option .text)
          (.cons "name" (.option .text) (.cons "type" (.option .text) .nil))).AreTexts :=
        ⟨rfl, rfl, rfl, trivial⟩
      exact absurd (Json.parse_accepts areTexts keys values before blank parses) spoiled
  · rfl

/-- A key has one name, so that the members of an object are the entries of no other list. -/
theorem field_injective : Function.Injective Entry.field := by
  rintro ⟨name, field, spelled⟩ ⟨name', _, spelled'⟩ rfl
  obtain rfl : name = name' := String.toList_inj.mp (spelled.unique spelled')
  rfl

/-! ### How a configuration is laid out -/

/-- A text is an object with some members: any blanks around and between them, any spelling of their
keys, and any values. -/
structure Lays (entries : List Entry) (text : Bytes) : Prop where
  spaced : ∃ lead blanks trail, Blank lead ∧ Blank blanks ∧ Blank trail ∧
    text = lead ++ (objectText blanks (entries.map Entry.field) ++ trail)
  values : ∀ entry ∈ entries, Value entry.text

/-- The members among some entries that are looked for, each with its value. -/
def members (entries : List Entry) : List (String × Bytes) :=
  (entries.filter (·.name ∈ known)).map fun entry => (entry.name, entry.text)

theorem texts_eq (isKnown : name ∈ known) :
    texts entries name = ((members entries).filter (·.1 = name)).map Prod.snd := by
  rw [texts, members, List.filter_map, List.map_map, List.filter_filter]
  congr 1
  refine List.filter_congr fun entry _ => ?_
  by_cases named : entry.name = name <;> simp [named, isKnown]

theorem texts_perm (same : (members entries).Perm (members others)) (isKnown : name ∈ known) :
    (texts entries name).Perm (texts others name) := by
  rw [texts_eq isKnown, texts_eq isKnown]
  exact (same.filter _).map _

/-- The members need not come in the same order to say the same: no name comes twice. -/
theorem Says.of_perm (stated : Says entries name value) (same : (members entries).Perm (members others))
    (isKnown : name ∈ known) : Says others name value := by
  have perm := (texts_perm same isKnown).symm
  cases stated with
  | absent given => exact .absent (List.perm_nil.mp (given ▸ perm))
  | null given => exact .null (List.perm_singleton.mp (given ▸ perm))
  | string given spelled => exact .string (List.perm_singleton.mp (given ▸ perm)) spelled

theorem Said.of_perm (said : Said entries conf) (same : (members entries).Perm (members others)) :
    Said others conf where
  cniVersion := said.cniVersion.of_perm same (by decide)
  name := said.name.of_perm same (by decide)
  type := said.type.of_perm same (by decide)

theorem read_unsaid (lays : Lays entries text) (unsaid : ¬ ∃ conf, Said entries conf) : read text = {} := by
  obtain ⟨lead, blanks, trail, before, blank, -, rfl⟩ := lays.spaced
  refine read_spoiled ?_ ?_ before blank ?_
  · exact List.forall_mem_map.mpr fun entry _ => entry.spelled.isBody
  · exact List.forall_mem_map.mpr lays.values
  · rintro ⟨found, isFields, sparing⟩
    obtain rfl := (List.map_inj_right fun _ _ same => field_injective same).mp isFields
    exact unsaid (said_of_sparing sparing)

/-- A configuration is read as what its members say, if each of the three is there once at most, as a
string or null.  The other members, the order of all of them, their spelling and the blanks do not
matter, whether the configuration can be read or not. -/
theorem read_object (lays : Lays entries text) :
    ((∀ name ∈ known, Sparing name entries) → Said entries (read text)) ∧
      (∀ conf, Said entries conf → read text = conf) ∧
      ∀ others other, Lays others other → (members entries).Perm (members others) →
        read other = read text := by
  have reads {entries text} (lays : Lays entries text) {conf} (said : Said entries conf) :
      read text = conf := by
    obtain ⟨lead, blanks, trail, before, blank, after, rfl⟩ := lays.spaced
    exact read_said said lays.values before blank after
  refine ⟨fun sparing => ?_, fun conf => reads lays, fun others other laysToo same => ?_⟩
  · obtain ⟨conf, said⟩ := said_of_sparing sparing
    exact (reads lays said).symm ▸ said
  · by_cases isSaid : ∃ conf, Said entries conf
    · obtain ⟨conf, said⟩ := isSaid
      rw [reads lays said, reads laysToo (said.of_perm same)]
    · have unsaid : ¬ ∃ conf, Said others conf := by
        rintro ⟨conf, said⟩
        exact isSaid ⟨conf, said.of_perm same.symm⟩
      rw [read_unsaid lays isSaid, read_unsaid laysToo unsaid]

/-- A version of which the key starts with an escape, and stands apart from its value. -/
def spacedVersion : Entry where
  name := "cniVersion"
  field := { (Entry.written "cniVersion" (Json.writeText "0.4.0")).field with
    key := Json.backslash :: 0x75 :: ([0x30, 0x30, 0x36, 0x33] ++ Json.inner "niVersion")
    gap := [0x20]
    gap_blank := List.forall_mem_singleton.mpr rfl
    value := { Json.Item.only (quoted (Json.inner "0.4.0")) with
      lead := [0x0A]
      lead_blank := List.forall_mem_singleton.mpr rfl } }
  spelled := by
    have unit : Json.Unit4 [0x30, 0x30, 0x36, 0x33] (((0 * 16 + 0) * 16 + 6) * 16 + 3) :=
      .mk rfl rfl rfl rfl
    exact .unit unit rfl rfl (Json.spelled_inner "niVersion")

/-- A member that is not looked for, with a name within that is. -/
def nestedName : Entry where
  name := "args"
  field := { (Entry.written "args" []).field with
    value := .only (objectText [] [(Entry.written "name" (Json.writeText "other")).field]) }
  spelled := Json.spelled_inner "args"

theorem lays_spaced : Lays [nestedName, spacedVersion]
    ([0x20] ++ (objectText [0x09] ([nestedName, spacedVersion].map Entry.field) ++ [0x0A])) where
  spaced := ⟨[0x20], [0x09], [0x0A], List.forall_mem_singleton.mpr rfl, List.forall_mem_singleton.mpr rfl,
    List.forall_mem_singleton.mpr rfl, rfl⟩
  values := by
    have within : Value (Json.utf8 (Json.writeText "other")) :=
      Json.utf8_writeText _ ▸ .string (Json.spelled_inner _).isBody
    have nested : Value nestedName.text :=
      .object (List.forall_mem_nil _) (List.forall_mem_singleton.mpr (Json.spelled_inner "name").isBody)
        (List.forall_mem_singleton.mpr within)
    exact List.forall_mem_cons.mpr ⟨nested,
      List.forall_mem_singleton.mpr (.string (Json.spelled_inner "0.4.0").isBody)⟩

theorem read_object_spaced :
    Said [nestedName, spacedVersion] { cniVersion := some "0.4.0" } ∧
      read ([0x20] ++ (objectText [0x09] ([nestedName, spacedVersion].map Entry.field) ++ [0x0A])) =
        { cniVersion := some "0.4.0" } ∧
      read (objectText [] ([spacedVersion].map Entry.field)) = { cniVersion := some "0.4.0" } := by
  have said : Said [nestedName, spacedVersion] { cniVersion := some "0.4.0" } :=
    ⟨.string rfl (Json.spelled_inner "0.4.0"), .absent rfl, .absent rfl⟩
  have alone : Lays [spacedVersion] (objectText [] ([spacedVersion].map Entry.field)) :=
    ⟨⟨[], [], [], nofun, nofun, nofun, (List.append_nil _).symm⟩,
      List.forall_mem_singleton.mpr (.string (Json.spelled_inner "0.4.0").isBody)⟩
  obtain ⟨-, reads, indifferent⟩ := read_object lays_spaced
  exact ⟨said, reads _ said, (indifferent _ _ alone (.refl _)).trans (reads _ said)⟩

end NetSwitch.Plugin.Configuration
