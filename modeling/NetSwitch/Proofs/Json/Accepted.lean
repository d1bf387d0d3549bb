import NetSwitch.Proofs.Json.Decoded
import NetSwitch.Proofs.Json.Reader

/-! What is accepted: a record of texts is read only from an object of which every key can be
decoded, and that has each of the texts once at most, as a string or null. -/

namespace NetSwitch.Json

variable {b : UInt8} {body decoded lead left rest text : Bytes}

/-! ### Values -/

/-- A value is a string of characters or null. -/
def Decodable (text : Bytes) : Prop :=
  text = nullWord ∨ ∃ body cs, text = quoted body ∧ Spelled body cs

theorem readOptionText_refuses (blank : Blank lead) (notBlank : isBlank b = false) (notNull : b ≠ 0x6E)
    (notQuote : b ≠ quoteMark) :
    (Shape.option .text).read (lead ++ b :: rest) = .error (refuse (b :: rest)) := by
  have strings : Shape.text.read (b :: rest) = .error (refuse (b :: rest)) := by
    have whole : skipBlanks (b :: rest) = b :: rest := skipBlanks_of_not_blank notBlank
    rw [Shape.read, readString, whole]
    exact if_neg notQuote
  rw [Shape.read, skipBlanks_cons blank notBlank]
  simp only [if_neg notNull, strings]
  rfl

/-- Where a text or null is asked for, no other value is accepted. -/
theorem readOptionText_value {found : Option String} (isValue : Value text) (blank : Blank lead)
    (reads : (Shape.option .text).read (lead ++ (text ++ rest)) = .ok (found, left)) :
    left = rest ∧ Decodable text := by
  have refused {b : UInt8} {more : Bytes} (notBlank : isBlank b = false) (notNull : b ≠ 0x6E)
      (notQuote : b ≠ quoteMark)
      (reads : (Shape.option .text).read (lead ++ b :: more) = .ok (found, left)) : False := by
    rw [readOptionText_refuses blank notBlank notNull notQuote] at reads
    cases reads
  cases isValue with
  | null =>
      have word : expectWord [0x75, 0x6C, 0x6C] ([0x75, 0x6C, 0x6C] ++ rest) = .ok rest := expectWord_found _
      rw [nullWord, List.cons_append, Shape.read, skipBlanks_cons blank rfl] at reads
      simp only [if_true, word, bind, Except.bind] at reads
      cases reads
      exact ⟨rfl, .inl rfl⟩
  | @string body spelled =>
      rw [quoted, List.cons_append, Shape.read, skipBlanks_cons blank rfl, List.append_assoc] at reads
      obtain ⟨⟨string, after⟩, readsString, reads⟩ := bind_ok.mp ((if_neg (by decide)).symm.trans reads)
      cases reads
      obtain ⟨rfl, spelled⟩ := readText_body spelled readsString
      exact ⟨rfl, .inr ⟨body, _, rfl, spelled⟩⟩
  | number number =>
      obtain ⟨rfl | rfl, wholes, -, -⟩ := number
      · obtain ⟨d, others, rfl, digit⟩ := wholes.starts
        exact (refused (isBlank_of_digit digit) (ne_of_digit digit rfl) (ne_of_digit digit rfl) reads).elim
      · exact (refused rfl (by decide) (by decide) reads).elim
  | _ => exact (refused rfl (by decide) (by decide) reads).elim

/-! ### Records of texts -/

/-- Whether each member is a text that may be absent. -/
def Members.AreTexts : Members → Prop
  | .nil => True
  | .cons _ shape rest => shape = .option .text ∧ rest.AreTexts

/-- Whether a member has been found. -/
def Members.has : (members : Members) → members.Draft → String → Bool
  | .nil, (), _ => false
  | .cons name _ rest, (found, others), key => if key = name then found.isSome else rest.has others key

/-- One entry at most has a name, and its value is a string of characters or null. -/
structure Sparing (name : String) (entries : List Entry) : Prop where
  once : (entries.filter (·.name = name)).length ≤ 1
  decodable : ∀ entry ∈ entries, entry.name = name → Decodable entry.text

/-- A member is accepted if it has not been found before and is a string or null. -/
theorem Members.readMember_accepts (members : Members) {draft next : members.Draft} {entry : Entry}
    (areTexts : members.AreTexts) (isValue : Json.Value entry.text) (ends : Ends rest)
    (reads : members.readMember entry.name draft
      (entry.field.gap ++ colon :: (entry.field.value.lead ++ (entry.text ++ rest))) = .ok (next, left)) :
    left = rest ∧ (∀ name ≠ entry.name, members.has next name = members.has draft name) ∧
      (entry.name ∈ members.names → Decodable entry.text ∧ members.has draft entry.name = false ∧
        members.has next entry.name = true) := by
  have separated (rest : Bytes) : expectByte colon (entry.field.gap ++ colon :: rest) = .ok rest :=
    expectByte_found entry.field.gap_blank rfl
  cases members with
  | nil =>
      rw [readMember] at reads
      obtain ⟨found, separates, reads⟩ := bind_ok.mp reads
      cases (separated _).symm.trans separates
      obtain ⟨after, skips, reads⟩ := bind_ok.mp reads
      rw [skipValue_value entry.field.value.lead_blank isValue ends] at skips
      cases skips
      cases reads
      exact ⟨rfl, fun _ _ => rfl, fun mem => by cases mem⟩
  | cons name shape rest' =>
      obtain ⟨found, others⟩ := draft
      obtain ⟨rfl, areTexts⟩ := areTexts
      rw [readMember] at reads
      split at reads
      case isTrue same =>
        split at reads
        · cases reads
        · next missing =>
            obtain ⟨input, separates, reads⟩ := bind_ok.mp reads
            cases (separated _).symm.trans separates
            obtain ⟨⟨value, after⟩, readsValue, reads⟩ := bind_ok.mp reads
            cases reads
            obtain ⟨rfl, decodable⟩ := readOptionText_value isValue entry.field.value.lead_blank readsValue
            refine ⟨rfl, fun key other => ?_, fun _ => ⟨decodable, ?_, ?_⟩⟩
            · rw [has, has, if_neg (same ▸ other), if_neg (same ▸ other)]
            · rw [has, if_pos same]
              simpa using missing
            · rw [has, if_pos same]
              rfl
      case isFalse different =>
        obtain ⟨⟨others', after⟩, readsRest, reads⟩ := bind_ok.mp reads
        cases reads
        obtain ⟨rfl, kept, accepted⟩ := rest'.readMember_accepts areTexts isValue ends readsRest
        refine ⟨rfl, fun key other => ?_, fun mem => ?_⟩
        · rw [has, has]
          split
          · rfl
          · exact kept key other
        · rw [has, has, if_neg different, if_neg different]
          exact accepted ((List.mem_cons.mp mem).resolve_left different)

section Entries

variable {members : Members} {draft done : members.Draft} {entries : List Entry} {fields : List Field}
  {rounds : Bytes} {name : String}

/-- What the entries that are left must be for a draft to be finished. -/
structure Members.Accepts (members : Members) (draft : members.Draft) (name : String) (entries : List Entry) :
    Prop where
  rest : members.has draft name = true → ∀ entry ∈ entries, entry.name ≠ name
  sparing : Sparing name entries

theorem Members.Accepts.nil : members.Accepts draft name [] :=
  ⟨nofun, Nat.zero_le _, nofun⟩

theorem Members.Accepts.cons {next : members.Draft} {entry : Entry}
    (others : members.Accepts next name entries)
    (kept : name ≠ entry.name → members.has next name = members.has draft name)
    (accepted : name = entry.name → Decodable entry.text ∧ members.has draft name = false ∧
      members.has next name = true) : members.Accepts draft name (entry :: entries) := by
  by_cases same : name = entry.name
  · obtain ⟨decodable, first, found⟩ := accepted same
    have noMore := others.rest found
    refine ⟨fun before => absurd (first.symm.trans before) Bool.false_ne_true, ?_, ?_⟩
    · have none : entries.filter (·.name = name) = [] := by simpa using noMore
      rw [List.filter_cons_of_pos (by simpa using same.symm), none]
      exact Nat.le_refl _
    · exact List.forall_mem_cons.mpr ⟨fun _ => decodable, others.sparing.decodable⟩
  · refine ⟨fun before => ?_, ?_, ?_⟩
    · exact List.forall_mem_cons.mpr ⟨Ne.symm same, others.rest ((kept same).trans before)⟩
    · rw [List.filter_cons_of_neg (by simpa using Ne.symm same)]
      exact others.sparing.once
    · exact List.forall_mem_cons.mpr ⟨fun equal => absurd equal.symm same, others.sparing.decodable⟩

/-- What the members that are left must be for a draft to be finished: each has a name, and each
text that is there agrees with the draft. -/
def Members.AcceptsAll (members : Members) (draft : members.Draft) (fields : List Field) : Prop :=
  ∃ entries, fields = entries.map Entry.field ∧ ∀ name ∈ members.names, members.Accepts draft name entries

theorem Members.AcceptsAll.nil : members.AcceptsAll draft [] :=
  ⟨[], rfl, fun _ _ => .nil⟩

/-- A key that is read has a name. -/
theorem readKey_body {field : Field} {found : Option String × Bytes} (isKey : Body field.key)
    (reads : readKey (field.key ++ quoteMark :: rest) = .ok found) :
    ∃ entry : Entry, field = entry.field ∧ found = (some entry.name, rest) := by
  obtain ⟨⟨name, after⟩, readsText, rfl⟩ := map_ok.mp reads
  obtain ⟨rfl, spelled⟩ := readText_body isKey readsText
  exact ⟨⟨name, field, spelled⟩, rfl, rfl⟩

theorem readMembers_accepts_field {isFirst : Bool} {input after : Bytes} {field : Field}
    (areTexts : members.AreTexts) (isKey : Body field.key) (isValue : Value field.value.text)
    (next : nextKey isFirst input = readKey (field.key ++ quoteMark ::
      (field.gap ++ colon :: (field.value.lead ++ (field.value.text ++ after))))) (ends : Ends after)
    (others : ∀ {draft rounds}, readMembers members.readMember rounds false draft after = .ok (done, left) →
      members.AcceptsAll draft fields)
    (reads : readMembers members.readMember rounds isFirst draft input = .ok (done, left)) :
    members.AcceptsAll draft (field :: fields) := by
  cases rounds with
  | nil => cases reads
  | cons b rounds =>
      rw [readMembers, next] at reads
      obtain ⟨found, keys, reads⟩ := bind_ok.mp reads
      obtain ⟨entry, rfl, rfl⟩ := readKey_body isKey keys
      obtain ⟨⟨middle, rest⟩, readsMember, readsOthers⟩ := bind_ok.mp reads
      obtain ⟨rfl, kept, accepted⟩ := members.readMember_accepts areTexts isValue ends readsMember
      obtain ⟨entries, rfl, accepts⟩ := others readsOthers
      refine ⟨entry :: entries, rfl, fun name isMember => ?_⟩
      exact (accepts name isMember).cons (kept name) fun same => same ▸ accepted (same ▸ isMember)

theorem readMembers_accepts_further {trail : Bytes} (areTexts : members.AreTexts)
    (keys : ∀ field ∈ fields, Body field.key) (values : ∀ field ∈ fields, Value field.value.text)
    (after : Blank trail)
    (reads : readMembers members.readMember rounds false draft
      (trail ++ ((fields.map Field.spelling).flatMap (comma :: ·) ++ closeBrace :: rest)) =
        .ok (done, left)) : members.AcceptsAll draft fields := by
  induction fields generalizing draft trail rounds with
  | nil => exact .nil
  | cons field fields ih =>
      obtain ⟨key, keys⟩ := List.forall_mem_cons.mp keys
      obtain ⟨value, values⟩ := List.forall_mem_cons.mp values
      simp only [List.map_cons, List.flatMap_cons, Field.spelling, Item.spelling, List.append_assoc,
        List.cons_append] at reads
      exact readMembers_accepts_field areTexts key value (nextKey_next after field.lead_blank)
        ((Ends.parts (.inr rfl)).blanks field.value.trail_blank)
        (ih keys values field.value.trail_blank) reads

theorem readMembers_accepts (areTexts : members.AreTexts) (keys : ∀ field ∈ fields, Body field.key)
    (values : ∀ field ∈ fields, Value field.value.text) (blank : Blank lead)
    (reads : readMembers members.readMember rounds true draft
      (lead ++ (commas (fields.map Field.spelling) ++ closeBrace :: rest)) = .ok (done, left)) :
    members.AcceptsAll draft fields := by
  cases fields with
  | nil => exact .nil
  | cons field fields =>
      obtain ⟨key, keys⟩ := List.forall_mem_cons.mp keys
      obtain ⟨value, values⟩ := List.forall_mem_cons.mp values
      simp only [List.map_cons, commas_cons, Field.spelling, Item.spelling, List.append_assoc,
        List.cons_append] at reads
      rw [← List.append_assoc lead] at reads
      exact readMembers_accepts_field areTexts key value
        (nextKey_first (List.forall_mem_append.mpr ⟨blank, field.lead_blank⟩))
        ((Ends.parts (.inr rfl)).blanks field.value.trail_blank)
        (readMembers_accepts_further areTexts keys values field.value.trail_blank) reads

end Entries

/-- An object is read as a record of texts only if each of its keys can be decoded, and it has each
text once at most, as a string or null. -/
theorem parse_accepts {members : Members} {values : members.Value} {blanks trail : Bytes}
    {fields : List Field} (areTexts : members.AreTexts) (keys : ∀ field ∈ fields, Body field.key)
    (areValues : ∀ field ∈ fields, Value field.value.text) (before : Blank lead) (blank : Blank blanks)
    (reads : (Shape.record members).parse (lead ++ (objectText blanks fields ++ trail)) = .ok values) :
    ∃ entries, fields = entries.map Entry.field ∧ ∀ name ∈ members.names, Sparing name entries := by
  obtain ⟨⟨record, left⟩, reads, -⟩ := bind_ok.mp reads
  simp only [objectText, List.cons_append, List.append_assoc, List.nil_append] at reads
  rw [Shape.read, skipBlanks_cons before rfl] at reads
  simp only [show openBrace ≠ openBracket by decide, if_true, if_false] at reads
  obtain ⟨⟨done, after⟩, reads, -⟩ := bind_ok.mp reads
  obtain ⟨entries, isFields, accepts⟩ := readMembers_accepts areTexts keys areValues blank reads
  exact ⟨entries, isFields, fun name isMember => (accepts name isMember).sparing⟩

end NetSwitch.Json
