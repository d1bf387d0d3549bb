import NetSwitch.Proofs.CommandLine.Version
import NetSwitch.Proofs.Json.Exact

/-! What is ignored: a text that is no object asks for nothing.

There is one exception.  A record can be read from an array of its members, and so can a configuration.
-/

namespace NetSwitch

namespace CommandLine

open Plugin (Configuration defaultVersion)
open Json (Aligned Blank Item Object Shape arrayText nullWord)

variable {stdin text : Bytes} {conf : Configuration}

/-- A text is an object, with blanks around it. -/
def HoldsObject (stdin : Bytes) : Prop :=
  ∃ lead text trail, Blank lead ∧ Blank trail ∧ Object text ∧ stdin = lead ++ (text ++ trail)

/-- A text is an array of three strings or nulls, which are the members of a configuration in order. -/
def Lists (stdin : Bytes) (conf : Configuration) : Prop :=
  ∃ lead blanks items trail, Blank lead ∧ Blank blanks ∧ Blank trail ∧
    Aligned (fun value (item : Item) => (Shape.option .text).Spells value item.text)
      [conf.cniVersion, conf.name, conf.type] items ∧
    stdin = lead ++ (arrayText blanks items ++ trail)

theorem Lists.spells {blanks : Bytes} {items : List Item} (blank : Blank blanks)
    (aligned : Aligned (fun value (item : Item) => (Shape.option .text).Spells value item.text)
      [conf.cniVersion, conf.name, conf.type] items) :
    (Json.Wire.shape Configuration).Spells (Json.Wire.toValue conf) (arrayText blanks items) := by
  obtain _ | ⟨version, _ | ⟨name, _ | ⟨type, ⟨⟩⟩⟩⟩ := aligned
  exact .inl ⟨blanks, _, blank, rfl, _, _, rfl, version, _, _, rfl, name, _, _, rfl, type, rfl⟩

theorem Lists.read (lists : Lists stdin conf) : Configuration.read stdin = conf := by
  obtain ⟨lead, blanks, items, trail, before, blank, after, aligned, rfl⟩ := lists
  have decoded := Json.decode_spelled (α := Configuration) rfl (Lists.spells blank aligned) before after
  rw [Configuration.read, decoded]

/-- No array is an object. -/
theorem Lists.not_object (lists : Lists stdin conf) : ¬ HoldsObject stdin := by
  rintro ⟨lead', text, trail', before', -, object, same⟩
  obtain ⟨lead, blanks, items, trail, before, -, -, -, rfl⟩ := lists
  obtain ⟨more, rfl⟩ : ∃ more, text = Json.openBrace :: more := by
    cases text with
    | nil => cases object.opens
    | cons b more =>
        obtain rfl : b = Json.openBrace := Option.some.inj object.opens
        exact ⟨more, rfl⟩
  have first := congrArg Json.skipBlanks same
  simp only [arrayText, List.cons_append] at first
  rw [Json.skipBlanks_cons before rfl, Json.skipBlanks_cons before' rfl] at first
  cases first

/-- Only an array of the members or an object is read. -/
theorem lists_of_decode (decodes : Json.decode stdin = .ok conf) : Lists stdin conf ∨ HoldsObject stdin := by
  obtain ⟨lead, text, trail, before, after, spells, rfl⟩ :=
    (Json.decode_iff (α := Configuration) rfl).mp decodes
  have isValue := spells.isValue
  rcases spells with ⟨blanks, items, blank, rfl, inOrder⟩ | ⟨blanks, entries, blank, rfl, among⟩
  · obtain ⟨version, _, rfl, saysVersion, name, _, rfl, saysName, type, _, rfl, saysType, rfl⟩ := inOrder
    exact .inl ⟨lead, blanks, _, trail, before, blank, after,
      .cons saysVersion (.cons saysName (.cons saysType .nil)), rfl⟩
  · exact .inr ⟨lead, _, trail, before, after, ⟨isValue, rfl⟩, rfl⟩

/-- A text that is no object is ignored, and the plugin acts on the version that is taken without a
configuration, unless the text is an array of the members. -/
theorem ignored_unless_listed (stdin : Bytes) :
    (∀ conf, Lists stdin conf →
      ¬ HoldsObject stdin ∧ Configuration.read stdin = conf ∧ Honoured stdin conf.version) ∧
    (¬ HoldsObject stdin → (¬ ∃ conf, Lists stdin conf) →
      Configuration.read stdin = {} ∧ Honoured stdin defaultVersion) := by
  constructor
  · intro conf lists
    exact ⟨lists.not_object, lists.read, honoured_of_read (by rw [lists.read])⟩
  · intro noObject noList
    have read : Configuration.read stdin = {} := by
      unfold Configuration.read
      cases decoded : Json.decode (α := Configuration) stdin with
      | error e => rfl
      | ok conf =>
          rcases lists_of_decode decoded with lists | object
          · exact absurd ⟨conf, lists⟩ noList
          · exact absurd object noObject
    exact ⟨read, honoured_of_read (by rw [read]; rfl)⟩

/-- An array that asks for version 0.4.0. -/
def listedVersion : Bytes :=
  arrayText [] [.only (Json.utf8 (Json.writeText "0.4.0")), .only nullWord, .only nullWord]

theorem listed_not_ignored : ¬ ∀ stdin, ¬ HoldsObject stdin → Configuration.read stdin = {} := by
  intro ignored
  have version : (Shape.option .text).Spells (some "0.4.0") (Json.utf8 (Json.writeText "0.4.0")) :=
    ⟨_, Json.utf8_writeText _, Json.spelled_inner _⟩
  have null : (Shape.option .text).Spells none (Item.only nullWord).text := rfl
  have lists : Lists listedVersion { cniVersion := some "0.4.0" } :=
    ⟨[], [], _, [], nofun, nofun, nofun, .cons version (.cons null (.cons null .nil)),
      by rw [List.append_nil, List.nil_append, listedVersion]⟩
  exact absurd (lists.read.symm.trans (ignored _ lists.not_object)) (by decide)

end CommandLine

end NetSwitch
