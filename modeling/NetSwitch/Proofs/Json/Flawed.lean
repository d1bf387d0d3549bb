import NetSwitch.Proofs.Json.Exact

/-! Flawed objects: one that has a member twice, or lacks one that must be there.

Apart from that they may be spelled in any way, and they may stand within the texts of other values.
Where the first flaw is found depends on the order of the members, but what is found does not: a text
that keeps to the grammar and is not what is asked for.
-/

namespace NetSwitch.Json

variable {b : UInt8} {lead rest text trail : Bytes}

mutual

/-- The texts that would spell a value of a shape but for the members of an object. -/
def Shape.Flawed : Shape → Bytes → Prop
  | .option shape, text => shape.Flawed text
  | .list item, text => ∃ blanks before found after, Blank blanks ∧
      text = arrayText blanks (before ++ found :: after) ∧
      (∀ earlier ∈ before, ∃ value, item.Spells value earlier.text) ∧ item.Flawed found.text ∧
      ∀ later ∈ after, Value later.text
  | .record members, text =>
      (∃ blanks items, Blank blanks ∧ text = arrayText blanks items ∧ members.FlawedInOrder items) ∨
      ∃ blanks entries, Blank blanks ∧ text = objectText blanks (entries.map Entry.field) ∧
        members.Nearly entries ∧ members.Spoiled entries
  | .text, _ | .natural _, _ | .choice _, _ => False

/-- Items that spell the members of a record, one after the other, until one of them is flawed. -/
def Members.FlawedInOrder : Members → List Item → Prop
  | .nil, _ => False
  | .cons _ shape rest, items => ∃ item others, items = item :: others ∧
      (shape.Flawed item.text ∧ (∀ other ∈ others, Value other.text) ∨
        (∃ value, shape.Spells value item.text) ∧ rest.FlawedInOrder others)

/-- Entries that spell members of a record or are flawed, and others that have any values. -/
def Members.Nearly : Members → List Entry → Prop
  | .nil, entries => ∀ entry ∈ entries, Value entry.text
  | .cons name shape rest, entries =>
      (∀ entry ∈ entries.filter (·.name = name),
        (∃ value, shape.Spells value entry.text) ∨ shape.Flawed entry.text) ∧
        rest.Nearly (entries.filter (·.name ≠ name))

/-- A member of a record is among some entries twice, or it is not among them though it must be, or
one that is among them is flawed itself. -/
def Members.Spoiled : Members → List Entry → Prop
  | .nil, _ => False
  | .cons name shape rest, entries =>
      2 ≤ (entries.filter (·.name = name)).length ∨
      entries.filter (·.name = name) = [] ∧ shape.absent? = none ∨
      (∃ entry ∈ entries.filter (·.name = name), shape.Flawed entry.text) ∨
      rest.Spoiled (entries.filter (·.name ≠ name))

end

/-! ### What is flawed is a value -/

mutual

theorem Shape.Flawed.isValue {shape : Shape} {text : Bytes} (flawed : shape.Flawed text) : Value text := by
  cases shape with
  | option shape =>
      have inner : shape.Flawed text := flawed
      exact Shape.Flawed.isValue inner
  | list item =>
      obtain ⟨blanks, before, found, after, blank, rfl, spelled, flawed, values⟩ := flawed
      refine .array blank (List.forall_mem_append.mpr ⟨fun earlier mem => ?_, ?_⟩)
      · obtain ⟨value, spells⟩ := spelled earlier mem
        exact spells.isValue
      · exact List.forall_mem_cons.mpr ⟨Shape.Flawed.isValue flawed, values⟩
  | record members =>
      rcases flawed with ⟨blanks, items, blank, rfl, inOrder⟩ | ⟨blanks, entries, blank, rfl, nearly, -⟩
      · exact .array blank (Members.FlawedInOrder.values inOrder)
      · refine .object blank ?_ ?_ <;> simp only [List.forall_mem_map]
        · exact fun entry _ => entry.spelled.isBody
        · exact Members.Nearly.values nearly
  | _ => cases flawed

theorem Members.FlawedInOrder.values {members : Members} {items : List Item}
    (inOrder : members.FlawedInOrder items) : ∀ item ∈ items, Value item.text := by
  cases members with
  | nil => cases inOrder
  | cons name shape rest =>
      obtain ⟨item, others, rfl, ⟨flawed, values⟩ | ⟨⟨value, spells⟩, inOrder⟩⟩ := inOrder
      · exact List.forall_mem_cons.mpr ⟨Shape.Flawed.isValue flawed, values⟩
      · exact List.forall_mem_cons.mpr ⟨spells.isValue, Members.FlawedInOrder.values inOrder⟩

theorem Members.Nearly.values {members : Members} {entries : List Entry} (nearly : members.Nearly entries) :
    ∀ entry ∈ entries, Value entry.text := by
  cases members with
  | nil => exact nearly
  | cons name shape rest =>
      obtain ⟨known, nearly⟩ := nearly
      intro entry mem
      by_cases same : entry.name = name
      · rcases known entry (List.mem_filter.mpr ⟨mem, by simpa using same⟩) with ⟨value, spells⟩ | flawed
        · exact spells.isValue
        · exact Shape.Flawed.isValue flawed
      · exact Members.Nearly.values nearly entry (List.mem_filter.mpr ⟨mem, by simpa using same⟩)

end

/-- What is flawed does not start like null. -/
theorem Shape.Flawed.not_null {shape : Shape} (notOption : shape.isOption = false)
    (flawed : shape.Flawed (b :: rest)) : b ≠ 0x6E := by
  cases shape with
  | option shape => cases notOption
  | list item =>
      obtain ⟨blanks, before, found, after, -, same, -⟩ := flawed
      cases same
      decide
  | record members =>
      rcases flawed with ⟨blanks, items, -, same, -⟩ | ⟨blanks, entries, -, same, -⟩ <;> cases same <;> decide
  | _ => cases flawed

/-- A reader that refuses some texts as not what it asks for. -/
def Refuses (read : Bytes → Read (α × Bytes)) (flawed : Bytes → Prop) : Prop :=
  ∀ {lead text rest : Bytes}, Blank lead → flawed text → Ends rest →
    read (lead ++ (text ++ rest)) = .error .unsuitable

theorem Refuses.refuse {read : Bytes → Read (α × Bytes)} {flawed : Bytes → Prop} (refuses : Refuses read flawed)
    (isFlawed : flawed text) (ends : Ends rest) : read (text ++ rest) = .error .unsuitable :=
  refuses (List.forall_mem_nil _) isFlawed ends

/-! ### Arrays -/

section Items

variable {read : Bytes → Read (α × Bytes)} {spells : α → Bytes → Prop} {flawed : Bytes → Prop}
  {before after : List Item} {found : Item} {rounds : Bytes}

theorem readItems_error {isFirst : Bool} {input next : Bytes} {e : ReadError}
    (finds : nextItem isFirst input = .ok (some next)) (fails : read next = .error e)
    (enough : 0 < rounds.length) : readItems read rounds isFirst input = .error e := by
  obtain ⟨b, rounds, rfl⟩ := List.exists_cons_of_length_pos enough
  rw [readItems, finds]
  simp only [bind, Except.bind, fails]

theorem readItems_later {isFirst : Bool} {input next left : Bytes} {value : α} {e : ReadError} {n : Nat}
    (finds : nextItem isFirst input = .ok (some next)) (reads : read next = .ok (value, left))
    (others : ∀ {rounds}, n < rounds.length → readItems read rounds false left = .error e)
    (enough : n + 1 < rounds.length) : readItems read rounds isFirst input = .error e := by
  obtain ⟨b, rounds, rfl⟩ := List.exists_cons_of_length_pos (Nat.zero_lt_of_lt enough)
  rw [readItems, finds]
  simp only [bind, Except.bind, reads, others (Nat.lt_of_succ_lt_succ enough)]

/-- A flawed item is refused when the items before it have been read. -/
theorem readItems_flawed (reads : Reads read spells) (refuses : Refuses read flawed)
    (isValue : ∀ {value text}, spells value text → Value text) (flawedValue : flawed found.text → Value found.text)
    (spelled : ∀ earlier ∈ before, ∃ value, spells value earlier.text) (isFlawed : flawed found.text)
    (blank : Blank trail) (enough : before.length < rounds.length) :
    readItems read rounds false
        (trail ++ (((before ++ found :: after).map Item.spelling).flatMap (comma :: ·) ++ closeBracket :: rest)) =
      .error .unsuitable := by
  induction before generalizing trail rounds with
  | nil =>
      rw [List.nil_append, List.map_cons, List.flatMap_cons, Item.spelling]
      simp only [List.append_assoc, List.cons_append]
      refine readItems_error (nextItem_next blank found.lead_blank (flawedValue isFlawed)) ?_ enough
      exact refuses.refuse isFlawed ((Ends.parts (.inl rfl)).blanks found.trail_blank)
  | cons earlier before ih =>
      obtain ⟨⟨value, first⟩, others⟩ := List.forall_mem_cons.mp spelled
      rw [List.cons_append, List.map_cons, List.flatMap_cons, Item.spelling]
      simp only [List.append_assoc, List.cons_append]
      exact readItems_later (nextItem_next blank earlier.lead_blank (isValue first))
        (reads.read first ((Ends.parts (.inl rfl)).blanks earlier.trail_blank))
        (ih others earlier.trail_blank) enough

theorem readItems_array_flawed (reads : Reads read spells) (refuses : Refuses read flawed)
    (isValue : ∀ {value text}, spells value text → Value text) (flawedValue : flawed found.text → Value found.text)
    (spelled : ∀ earlier ∈ before, ∃ value, spells value earlier.text) (isFlawed : flawed found.text)
    (blank : Blank lead) (enough : before.length < rounds.length) :
    readItems read rounds true
        (lead ++ (commas ((before ++ found :: after).map Item.spelling) ++ closeBracket :: rest)) =
      .error .unsuitable := by
  cases before with
  | nil =>
      rw [List.nil_append, List.map_cons, commas_cons, Item.spelling]
      simp only [List.append_assoc]
      rw [← List.append_assoc lead]
      have leads : Blank (lead ++ found.lead) := List.forall_mem_append.mpr ⟨blank, found.lead_blank⟩
      refine readItems_error (nextItem_first leads (flawedValue isFlawed)) ?_ enough
      exact refuses.refuse isFlawed ((Ends.parts (.inl rfl)).blanks found.trail_blank)
  | cons earlier before =>
      obtain ⟨⟨value, first⟩, others⟩ := List.forall_mem_cons.mp spelled
      rw [List.cons_append, List.map_cons, commas_cons, Item.spelling]
      simp only [List.append_assoc]
      rw [← List.append_assoc lead]
      have leads : Blank (lead ++ earlier.lead) := List.forall_mem_append.mpr ⟨blank, earlier.lead_blank⟩
      exact readItems_later (nextItem_first leads (isValue first))
        (reads.read first ((Ends.parts (.inl rfl)).blanks earlier.trail_blank))
        (readItems_flawed reads refuses isValue flawedValue others isFlawed earlier.trail_blank) enough

end Items

/-! ### Objects -/

/-- What is left of some entries makes it certain that a draft is not finished. -/
def Members.Fails : (members : Members) → members.Draft → List Entry → Prop
  | .nil, (), _ => False
  | .cons name shape rest, (found, others), entries =>
      2 ≤ found.toList.length + (entries.filter (·.name = name)).length ∨
      (found = none ∧ entries.filter (·.name = name) = [] ∧ shape.absent? = none) ∨
      (∃ entry ∈ entries.filter (·.name = name), shape.Flawed entry.text) ∨
      rest.Fails others (entries.filter (·.name ≠ name))

theorem Members.fails_blank (members : Members) {entries : List Entry} (spoiled : members.Spoiled entries) :
    members.Fails members.blank entries := by
  cases members with
  | nil => cases spoiled
  | cons name shape rest =>
      rcases spoiled with twice | missing | flawed | others
      · exact .inl (by simpa using twice)
      · exact .inr (.inl ⟨rfl, missing⟩)
      · exact .inr (.inr (.inl flawed))
      · exact .inr (.inr (.inr (rest.fails_blank others)))

theorem Members.build?_fails (members : Members) {draft : members.Draft} (fails : members.Fails draft []) :
    members.build? draft = none := by
  cases members with
  | nil => cases fails
  | cons name shape rest =>
      obtain ⟨found, others⟩ := draft
      rcases fails with twice | ⟨rfl, -, missing⟩ | ⟨entry, mem, -⟩ | fails
      · cases found <;> simp at twice
      · simp [build?, missing]
      · cases mem
      · simp [build?, rest.build?_fails fails]

/-- Flawed values of some members are refused. -/
def Members.Refuses : Members → Prop
  | .nil => True
  | .cons _ shape rest => Json.Refuses shape.read shape.Flawed ∧ rest.Refuses

theorem Members.Nearly.tail {members : Members} {entry : Entry} {entries : List Entry}
    (nearly : members.Nearly (entry :: entries)) : members.Nearly entries := by
  cases members with
  | nil => exact (List.forall_mem_cons.mp nearly).2
  | cons name shape rest =>
      obtain ⟨known, nearly⟩ := nearly
      by_cases same : entry.name = name
      · rw [List.filter_cons_of_pos (by simpa using same)] at known
        rw [List.filter_cons_of_neg (by simpa using same)] at nearly
        exact ⟨(List.forall_mem_cons.mp known).2, nearly⟩
      · rw [List.filter_cons_of_neg (by simpa using same)] at known
        rw [List.filter_cons_of_pos (by simpa using same)] at nearly
        exact ⟨known, nearly.tail⟩

/-- An entry is refused, or it is read and a draft that could not be finished still cannot. -/
theorem Members.readMember_nearly (members : Members) (draft : members.Draft) {entry : Entry}
    {entries : List Entry} (reads : members.Reads) (refuses : members.Refuses)
    (nearly : members.Nearly (entry :: entries)) (ends : Ends rest) :
    members.readMember entry.name draft
        (entry.field.gap ++ colon :: (entry.field.value.lead ++ (entry.text ++ rest))) = .error .unsuitable ∨
      ∃ next, members.readMember entry.name draft
          (entry.field.gap ++ colon :: (entry.field.value.lead ++ (entry.text ++ rest))) = .ok (next, rest) ∧
        (members.Fails draft (entry :: entries) → members.Fails next entries) := by
  have separated (rest : Bytes) : expectByte colon (entry.field.gap ++ colon :: rest) = .ok rest :=
    expectByte_found entry.field.gap_blank rfl
  cases members with
  | nil =>
      have value := (List.forall_mem_cons.mp nearly).1
      refine .inr ⟨(), ?_, nofun⟩
      simp [readMember, bind, Except.bind, separated, skipValue_value entry.field.value.lead_blank value ends]
  | cons name shape members =>
      obtain ⟨found, others⟩ := draft
      obtain ⟨known, nearly⟩ := nearly
      by_cases same : entry.name = name
      · rw [List.filter_cons_of_pos (by simpa using same)] at known
        cases found with
        | some value =>
            refine .inl ?_
            rw [readMember, if_pos same]
            exact if_pos rfl
        | none =>
            have read : (Members.cons name shape members).readMember entry.name (none, others)
                (entry.field.gap ++ colon :: (entry.field.value.lead ++ (entry.text ++ rest))) =
                (shape.read (entry.field.value.lead ++ (entry.text ++ rest)) >>=
                  fun read => .ok ((some read.1, others), read.2)) := by
              simp [readMember, same, bind, Except.bind, separated]
            by_cases flawed : shape.Flawed entry.text
            · refine .inl ?_
              rw [read, refuses.1 entry.field.value.lead_blank flawed ends]
              rfl
            · -- It is read, so what makes the draft fail is among the entries that are left.
              obtain ⟨value, spells⟩ := (known entry (.head _)).resolve_right flawed
              refine .inr ⟨(some value, others), ?_, ?_⟩
              · rw [read, reads.1 entry.field.value.lead_blank spells ends]
                rfl
              · intro fails
                rw [Fails, List.filter_cons_of_pos (by simpa using same),
                  List.filter_cons_of_neg (by simpa using same)] at fails
                rcases fails with twice | ⟨-, none, -⟩ | ⟨other, mem, isFlawed⟩ | fails
                · exact .inl (by simpa [Nat.add_comm] using twice)
                · cases none
                · rcases List.mem_cons.mp mem with rfl | mem
                  · exact absurd isFlawed flawed
                  · exact .inr (.inr (.inl ⟨other, mem, isFlawed⟩))
                · exact .inr (.inr (.inr fails))
      · rw [List.filter_cons_of_pos (by simpa using same)] at nearly
        rcases members.readMember_nearly others reads.2 refuses.2 nearly ends with refused | ⟨next, read, kept⟩
        · refine .inl ?_
          rw [readMember, if_neg same, refused]
          rfl
        · refine .inr ⟨(found, next), ?_, ?_⟩
          · rw [readMember, if_neg same, read]
            rfl
          · intro fails
            rw [Fails, List.filter_cons_of_neg (by simpa using same),
              List.filter_cons_of_pos (by simpa using same)] at fails
            rcases fails with twice | missing | flawed | others
            · exact .inl twice
            · exact .inr (.inl missing)
            · exact .inr (.inr (.inl flawed))
            · exact .inr (.inr (.inr (kept others)))

/-- Reading is refused, or it comes to a draft that cannot be finished. -/
def Members.Unbuilt (members : Members) (rest : Bytes) (read : Read (members.Draft × Bytes)) : Prop :=
  read = .error .unsuitable ∨ ∃ done, members.build? done = none ∧ read = .ok (done, rest)

section Entries

variable {members : Members} {draft : members.Draft} {entries : List Entry} {rounds : Bytes} {isFirst : Bool}

theorem readMembers_unbuilt_end (fails : members.Fails draft []) (blank : Blank lead) (enough : 0 < rounds.length) :
    members.Unbuilt rest
      (readMembers members.readMember rounds isFirst draft (lead ++ closeBrace :: rest)) := by
  obtain ⟨b, rounds, rfl⟩ := List.exists_cons_of_length_pos enough
  refine .inr ⟨draft, members.build?_fails fails, ?_⟩
  rw [readMembers, nextKey_end blank]
  rfl

theorem readMembers_unbuilt_entry {input after : Bytes} {entry : Entry} {n : Nat} (reads : members.Reads)
    (refuses : members.Refuses) (nearly : members.Nearly (entry :: entries))
    (fails : members.Fails draft (entry :: entries))
    (next : nextKey isFirst input = readKey (entry.field.key ++ quoteMark ::
      (entry.field.gap ++ colon :: (entry.field.value.lead ++ (entry.text ++ after))))) (ends : Ends after)
    (others : ∀ {draft rounds}, members.Fails draft entries → n < rounds.length →
      members.Unbuilt rest (readMembers members.readMember rounds false draft after))
    (enough : n + 1 < rounds.length) :
    members.Unbuilt rest (readMembers members.readMember rounds isFirst draft input) := by
  obtain ⟨b, rounds, rfl⟩ := List.exists_cons_of_length_pos (Nat.zero_lt_of_lt enough)
  rw [readMembers, next, readKey_spelled]
  rcases members.readMember_nearly draft reads refuses nearly ends with refused | ⟨middle, read, kept⟩
  · simp only [bind, Except.bind, refused]
    exact .inl rfl
  · simp only [bind, Except.bind, read]
    exact others (kept fails) (Nat.lt_of_succ_lt_succ enough)

theorem readMembers_unbuilt_further (reads : members.Reads) (refuses : members.Refuses)
    (nearly : members.Nearly entries) (fails : members.Fails draft entries) (after : Blank trail)
    (enough : entries.length < rounds.length) :
    members.Unbuilt rest (readMembers members.readMember rounds false draft
      (trail ++ (((entries.map Entry.field).map Field.spelling).flatMap (comma :: ·) ++ closeBrace :: rest))) := by
  induction entries generalizing draft trail rounds with
  | nil => exact readMembers_unbuilt_end fails after enough
  | cons entry entries ih =>
      simp only [List.map_cons, List.flatMap_cons, Field.spelling, Item.spelling, List.append_assoc,
        List.cons_append]
      exact readMembers_unbuilt_entry reads refuses nearly fails (nextKey_next after entry.field.lead_blank)
        ((Ends.parts (.inr rfl)).blanks entry.field.value.trail_blank)
        (fun fails => ih nearly.tail fails entry.field.value.trail_blank) enough

theorem readMembers_unbuilt (rest : Bytes) (reads : members.Reads) (refuses : members.Refuses)
    (nearly : members.Nearly entries) (fails : members.Fails draft entries) (blank : Blank lead)
    (enough : entries.length < rounds.length) :
    members.Unbuilt rest (readMembers members.readMember rounds true draft
      (lead ++ (commas ((entries.map Entry.field).map Field.spelling) ++ closeBrace :: rest))) := by
  cases entries with
  | nil => exact readMembers_unbuilt_end fails blank enough
  | cons entry entries =>
      simp only [List.map_cons, commas_cons, Field.spelling, Item.spelling, List.append_assoc,
        List.cons_append]
      rw [← List.append_assoc lead]
      exact readMembers_unbuilt_entry reads refuses nearly fails
        (nextKey_first (List.forall_mem_append.mpr ⟨blank, entry.field.lead_blank⟩))
        ((Ends.parts (.inr rfl)).blanks entry.field.value.trail_blank)
        (fun fails => readMembers_unbuilt_further reads refuses nearly.tail fails entry.field.value.trail_blank)
        enough

end Entries

/-! ### Records in order -/

theorem readInOrder_error {name : String} {shape : Shape} {members : Members} {isFirst : Bool}
    {input found : Bytes} {e : ReadError} (next : nextItem isFirst input = .ok (some found))
    (fails : shape.read found = .error e) :
    (Members.cons name shape members).readInOrder isFirst input = .error e := by
  simp [Members.readInOrder, next, fails, bind, Except.bind]

theorem readInOrder_later {name : String} {shape : Shape} {members : Members} {isFirst : Bool}
    {input found after : Bytes} {value : shape.Value} {e : ReadError}
    (next : nextItem isFirst input = .ok (some found)) (read : shape.read found = .ok (value, after))
    (others : members.readInOrder false after = .error e) :
    (Members.cons name shape members).readInOrder isFirst input = .error e := by
  simp [Members.readInOrder, next, read, others, bind, Except.bind]

theorem readInOrder_flawed_further (members : Members) {items : List Item} {trail : Bytes} (rest : Bytes)
    (reads : members.Reads) (refuses : members.Refuses) (inOrder : members.FlawedInOrder items)
    (after : Blank trail) :
    members.readInOrder false
        (trail ++ ((items.map Item.spelling).flatMap (comma :: ·) ++ closeBracket :: rest)) =
      .error .unsuitable := by
  cases members with
  | nil => cases inOrder
  | cons name shape members =>
      obtain ⟨item, items, rfl, further⟩ := inOrder
      simp only [List.map_cons, List.flatMap_cons, Item.spelling, List.append_assoc, List.cons_append]
      rcases further with ⟨flawed, -⟩ | ⟨⟨value, spells⟩, inOrder⟩
      · exact readInOrder_error (nextItem_next after item.lead_blank flawed.isValue)
          (Refuses.refuse refuses.1 flawed ((Ends.parts (.inl rfl)).blanks item.trail_blank))
      · exact readInOrder_later (nextItem_next after item.lead_blank spells.isValue)
          (Reads.read reads.1 spells ((Ends.parts (.inl rfl)).blanks item.trail_blank))
          (readInOrder_flawed_further members rest reads.2 refuses.2 inOrder item.trail_blank)

theorem readInOrder_flawed {members : Members} {items : List Item} (reads : members.Reads)
    (refuses : members.Refuses) (inOrder : members.FlawedInOrder items) (blank : Blank lead) :
    members.readInOrder true (lead ++ (commas (items.map Item.spelling) ++ closeBracket :: rest)) =
      .error .unsuitable := by
  cases members with
  | nil => cases inOrder
  | cons name shape members =>
      obtain ⟨item, items, rfl, further⟩ := inOrder
      simp only [List.map_cons, commas_cons, Item.spelling, List.append_assoc]
      rw [← List.append_assoc lead]
      have leads : Blank (lead ++ item.lead) := List.forall_mem_append.mpr ⟨blank, item.lead_blank⟩
      rcases further with ⟨flawed, -⟩ | ⟨⟨value, spells⟩, inOrder⟩
      · exact readInOrder_error (nextItem_first leads flawed.isValue)
          (Refuses.refuse refuses.1 flawed ((Ends.parts (.inl rfl)).blanks item.trail_blank))
      · exact readInOrder_later (nextItem_first leads spells.isValue)
          (Reads.read reads.1 spells ((Ends.parts (.inl rfl)).blanks item.trail_blank))
          (readInOrder_flawed_further members rest reads.2 refuses.2 inOrder item.trail_blank)

/-! ### All shapes -/

mutual

/-- A flawed text is refused, wherever in it the flaw is. -/
theorem Shape.refuses (shape : Shape) (legible : shape.isLegible = true) : Refuses shape.read shape.Flawed := by
  intro lead text rest blank flawed ends
  cases shape with
  | option shape =>
      obtain ⟨notOption, legible⟩ : shape.isOption = false ∧ shape.isLegible = true := by
        simpa [Shape.isLegible] using legible
      have flawed : shape.Flawed text := flawed
      obtain ⟨b, others, rfl, notBlank, -⟩ := flawed.isValue.starts
      have refused := Refuses.refuse (shape.refuses legible) flawed ends
      rw [List.cons_append] at refused ⊢
      rw [Shape.read, skipBlanks_cons blank notBlank]
      simp [flawed.not_null notOption, refused, bind, Except.bind]
  | list item =>
      obtain ⟨blanks, before, found, after, itemsBlank, rfl, spelled, flawed, -⟩ := flawed
      have enough : before.length < (lead ++ openBracket :: (blanks ++
          (commas ((before ++ found :: after).map Item.spelling) ++ closeBracket :: rest))).length := by
        refine Nat.lt_of_le_of_lt ?_ (length_parts rfl)
        simp
      simp only [arrayText, List.cons_append, List.append_assoc, List.nil_append]
      rw [Shape.read, skipBlanks_cons blank rfl]
      exact readItems_array_flawed (item.reads legible) (item.refuses legible) Shape.Spells.isValue
        Shape.Flawed.isValue spelled flawed itemsBlank enough
  | record members =>
      have readable := members.reads legible
      have refuses := members.refuses legible
      rcases flawed with ⟨blanks, items, itemsBlank, rfl, inOrder⟩ |
        ⟨blanks, entries, fieldsBlank, rfl, nearly, spoiled⟩
      · simp only [arrayText, List.cons_append, List.append_assoc, List.nil_append]
        rw [Shape.read, skipBlanks_cons blank rfl]
        simp only [if_true, bind, Except.bind, readInOrder_flawed readable refuses inOrder itemsBlank]
      · have enough : entries.length < (lead ++ openBrace :: (blanks ++
            (commas ((entries.map Entry.field).map Field.spelling) ++ closeBrace :: rest))).length :=
          length_parts (by rw [List.length_map, List.length_map])
        have unbuilt := readMembers_unbuilt rest readable refuses nearly (members.fails_blank spoiled)
          fieldsBlank enough
        simp only [objectText, List.cons_append, List.append_assoc, List.nil_append]
        rw [Shape.read, skipBlanks_cons blank rfl]
        simp only [show openBrace ≠ openBracket by decide, if_true, if_false]
        rcases unbuilt with refused | ⟨done, unbuilt, read⟩
        · rw [refused]
          rfl
        · simp only [read, bind, Except.bind, unbuilt]
  | _ => cases flawed

theorem Members.refuses (members : Members) (legible : members.isLegible = true) : members.Refuses := by
  cases members with
  | nil => trivial
  | cons name shape members =>
      simp only [Members.isLegible, Bool.and_eq_true] at legible
      exact ⟨shape.refuses legible.1.2, members.refuses legible.2⟩

end

theorem decode_flawed {α : Type} [Wire α] (legible : (Wire.shape α).isLegible = true)
    (flawed : (Wire.shape α).Flawed text) (before : Blank lead) (after : Blank trail) :
    decode (α := α) (lead ++ (text ++ trail)) = .error .unsuitable := by
  have ends : Ends trail := by
    have nothingGoesOn : Ends [] := nofun
    simpa using nothingGoesOn.blanks after
  rw [decode, Shape.parse, (Wire.shape α).refuses legible before flawed ends]
  rfl

end NetSwitch.Json
