import NetSwitch.Proofs.Json.Skip
import NetSwitch.Proofs.Json.Text

/-! Reading: a text that spells a value of a shape is read as that value. -/

namespace NetSwitch.Json

/-! ### What a reader can tell apart -/

def Shape.isOption : Shape → Bool
  | .option _ => true
  | _ => false

def Members.names : Members → List String
  | .nil => []
  | .cons name _ rest => name :: rest.names

mutual

/-- Whether no two values of a shape are written in the same way, and all of them can be read:
numbers fit 64 bits, names are distinct, and what may be null is so in one way. -/
def Shape.isLegible : Shape → Bool
  | .text => true
  | .natural bound => bound ≤ UInt64.size
  | .choice names => names.Nodup
  | .option shape => !shape.isOption && shape.isLegible
  | .list item => item.isLegible
  | .record members => members.isLegible

def Members.isLegible : Members → Bool
  | .nil => true
  | .cons name shape rest => !rest.names.contains name && shape.isLegible && rest.isLegible

end

/-! ### What spells a value is a value -/

theorem Value.whole {text : Bytes} (whole : Whole text) : Value text := by
  have number := Value.number (.mk (.inl rfl) whole .none .none)
  rwa [List.append_nil, List.append_nil, List.nil_append] at number

theorem Aligned.of_mem {related : α → β → Prop} {as : List α} {bs : List β} {b : β}
    (aligned : Aligned related as bs) (mem : b ∈ bs) : ∃ a, related a b := by
  induction aligned with
  | nil => cases mem
  | cons first _ ih =>
      rcases List.mem_cons.mp mem with rfl | mem
      · exact ⟨_, first⟩
      · exact ih mem

theorem Given.of_mem {spells : α → Bytes → Prop} {absent? : Option α} {value : α} {entries : List Entry}
    {entry : Entry} (given : Given spells absent? value entries) (mem : entry ∈ entries) :
    spells value entry.text := by
  match entries, given with
  | [only], spells => exact List.mem_singleton.mp mem ▸ spells

mutual

theorem Shape.Spells.isValue {shape : Shape} {value : shape.Value} {text : Bytes}
    (spells : shape.Spells value text) : Value text := by
  cases shape with
  | text =>
      obtain ⟨body, rfl, spelled⟩ := spells
      exact .string spelled.isBody
  | natural bound => exact .whole spells.1
  | choice names =>
      obtain ⟨body, spelled, rfl | ⟨field, rfl, null, rfl⟩⟩ := spells
      · exact .string spelled.isBody
      · exact .object (fun _ => nofun) (by simpa using spelled.isBody) (by simpa [null] using Value.null)
  | option shape =>
      cases value with
      | none => exact spells ▸ .null
      | some value =>
          have inner : shape.Spells value text := spells
          exact Shape.Spells.isValue inner
  | list item =>
      obtain ⟨blanks, items, blank, rfl, aligned⟩ := spells
      refine .array blank fun found mem => ?_
      obtain ⟨value, spells⟩ := aligned.of_mem mem
      exact Shape.Spells.isValue spells
  | record members =>
      rcases spells with ⟨blanks, items, blank, rfl, inOrder⟩ | ⟨blanks, entries, blank, rfl, among⟩
      · exact .array blank (Members.InOrder.values inOrder)
      · refine .object blank ?_ ?_ <;> simp only [List.forall_mem_map]
        · exact fun entry _ => entry.spelled.isBody
        · exact Members.Among.values among

theorem Members.InOrder.values {members : Members} {values : members.Value} {items : List Item}
    (inOrder : members.InOrder values items) : ∀ item ∈ items, Value item.text := by
  cases members with
  | nil => simp [show items = [] from inOrder]
  | cons name shape rest =>
      obtain ⟨item, others, rfl, spells, inOrder⟩ := inOrder
      exact List.forall_mem_cons.mpr ⟨Shape.Spells.isValue spells, Members.InOrder.values inOrder⟩

theorem Members.Among.values {members : Members} {values : members.Value} {entries : List Entry}
    (among : members.Among values entries) : ∀ entry ∈ entries, Value entry.text := by
  cases members with
  | nil => exact among
  | cons name shape rest =>
      obtain ⟨given, among⟩ := among
      intro entry mem
      by_cases same : entry.name = name
      · exact Shape.Spells.isValue (given.of_mem (List.mem_filter.mpr ⟨mem, by simpa using same⟩))
      · exact Members.Among.values among entry (List.mem_filter.mpr ⟨mem, by simpa using same⟩)

end

/-! ### The parts of a text -/

variable {b : UInt8} {body lead more rest text trail : Bytes}

theorem skipBlanks_cons (blank : Blank lead) (notBlank : isBlank b = false) :
    skipBlanks (lead ++ b :: rest) = b :: rest := by
  rw [skipBlanks, List.dropWhile_append_of_pos blank, List.dropWhile_cons_of_neg (by simp [notBlank])]

theorem skipBlanks_of_not_blank (notBlank : isBlank b = false) : skipBlanks (b :: rest) = b :: rest :=
  skipBlanks_cons (List.forall_mem_nil _) notBlank

theorem expectByte_found (blank : Blank lead) (notBlank : isBlank b = false) :
    expectByte b (lead ++ b :: rest) = .ok rest := by
  rw [expectByte, skipBlanks_cons blank notBlank]
  exact if_pos rfl

theorem expectWord_found (word : Bytes) : expectWord word (word ++ rest) = .ok rest := by
  induction word with
  | nil => cases rest <;> rfl
  | cons b word ih => exact (if_pos rfl).trans ih

theorem scanDigits_digits (digits : Digits text) (ends : ∀ b ∈ rest.head?, isDigit b = false) :
    scanDigits (text ++ rest) = .ok (text, rest) := by
  obtain ⟨some, digit⟩ := digits
  have stops : rest.takeWhile isDigit = [] ∧ rest.dropWhile isDigit = rest := by
    cases rest with
    | nil => exact ⟨rfl, rfl⟩
    | cons b rest => simp [ends b rfl]
  obtain ⟨d, others, rfl⟩ := List.exists_cons_of_ne_nil some
  rw [List.cons_append, scanDigits, if_pos (List.forall_mem_cons.mp digit).1, ← List.cons_append,
    List.takeWhile_append_of_pos digit, List.dropWhile_append_of_pos digit, stops.1, stops.2, List.append_nil]

theorem scanWhole_whole (whole : Whole text) (ends : ∀ b ∈ rest.head?, isDigit b = false) :
    scanWhole (text ++ rest) = .ok (text, rest) := by
  have digits : Digits text := by
    cases whole with
    | zero => exact ⟨by simp, List.forall_mem_singleton.mpr rfl⟩
    | digits digit _ others => exact ⟨by simp, List.forall_mem_cons.mpr ⟨digit, others⟩⟩
  have proper : ¬ (text.head? = some 0x30 ∧ text.length ≠ 1) := by
    cases whole with
    | zero => simp
    | digits _ notZero _ => simp [notZero]
  rw [scanWhole, scanDigits_digits digits ends]
  exact if_neg proper

theorem scanNumeral_whole (whole : Whole text) (ends : Ends rest) :
    scanNumeral (text ++ rest) = .ok (⟨false, text, none, none⟩, rest) := by
  have noFraction : scanFraction rest = .ok (none, rest) := by
    cases rest with
    | nil => rfl
    | cons b rest => exact if_neg (ends b rfl).2.1
  have noExponent : scanExponent rest = .ok (none, rest) := by
    cases rest with
    | nil => rfl
    | cons b rest => exact if_neg (by simp [(ends b rfl).2.2])
  have scanned : scanUnsigned false (text ++ rest) = .ok (⟨false, text, none, none⟩, rest) := by
    simp [scanUnsigned, scanWhole_whole whole fun b mem => (ends b mem).1, noFraction, noExponent, bind,
      Except.bind]
  obtain ⟨d, others, rfl, digit⟩ := whole.starts
  rwa [List.cons_append, scanNumeral, if_neg (ne_of_digit digit rfl)]

theorem le_decimalValue (significand : Nat) (digits : Bytes) :
    significand ≤ digits.foldl (fun value b => value * 10 + digitValue b) significand := by
  induction digits generalizing significand with
  | nil => exact Nat.le_refl _
  | cons b digits ih =>
      have extended := ih (significand * 10 + digitValue b)
      rw [List.foldl_cons]
      omega

/-- Digits are collected to the last as long as their value fits. -/
theorem collect_fitting {significand : Nat} {digits : Bytes}
    (fits : digits.foldl (fun value b => value * 10 + digitValue b) significand < UInt64.size) :
    collect significand digits =
      (digits.foldl (fun value b => value * 10 + digitValue b) significand, []) := by
  induction digits generalizing significand with
  | nil => rfl
  | cons b digits ih =>
      have first : significand * 10 + digitValue b < UInt64.size :=
        Nat.lt_of_le_of_lt (le_decimalValue _ digits) fits
      exact (if_pos first).trans (ih fits)

theorem readNumber_whole (whole : Whole text) (fits : decimalValue text < UInt64.size) (ends : Ends rest) :
    readNumber (text ++ rest) = .ok (some (decimalValue text), rest) := by
  rw [readNumber, scanNumeral_whole whole ends]
  simp only [bind, Except.bind, Numeral.natural?, collect_fitting fits]
  rfl

/-! ### Values without parts -/

theorem readString_spelled {cs : List Char} (blank : Blank lead) (spelled : Spelled body cs) :
    readString (lead ++ (quoted body ++ rest)) = .ok (String.ofList cs, rest) := by
  rw [quoted, List.cons_append, readString, skipBlanks_cons blank rfl, List.append_assoc]
  exact (if_pos rfl).trans (readText_spelled spelled)

theorem readNatural_whole {bound : Nat} (blank : Blank lead) (whole : Whole text)
    (below : decimalValue text < bound) (fits : bound ≤ UInt64.size) (ends : Ends rest) :
    readNatural bound (lead ++ (text ++ rest)) = .ok (⟨decimalValue text, below⟩, rest) := by
  have number := readNumber_whole whole (Nat.lt_of_lt_of_le below fits) ends
  obtain ⟨d, others, rfl, digit⟩ := whole.starts
  rw [List.cons_append] at number ⊢
  rw [readNatural, skipBlanks_cons blank (isBlank_of_digit digit)]
  simp [digit, number, bind, Except.bind, below]

theorem pick_name {names : List String} (distinct : names.Nodup) (choice : Fin names.length) :
    pick names (names.get choice) = .ok choice := by
  have found : names.finIdxOf? (names.get choice) = some choice := by
    refine List.finIdxOf?_eq_some_iff.mpr ⟨rfl, fun j before => ?_⟩
    exact List.pairwise_iff_getElem.mp distinct j choice j.isLt choice.isLt before
  rw [pick, found]

theorem readChoice_quoted {names : List String} {choice : Fin names.length} (distinct : names.Nodup)
    (blank : Blank lead) (spelled : Spelled body (names.get choice).toList) :
    readChoice names (lead ++ (quoted body ++ rest)) = .ok (choice, rest) := by
  rw [quoted, List.cons_append, readChoice, skipBlanks_cons blank rfl, List.append_assoc]
  simp only [if_pos, List.cons_append, List.nil_append, readText_spelled spelled, String.ofList_toList, bind,
    Except.bind, pick_name distinct]

theorem readChoice_keyed {names : List String} {choice : Fin names.length} {field : Field}
    (distinct : names.Nodup) (blank : Blank lead) (spelled : Spelled field.key (names.get choice).toList)
    (null : field.value.text = nullWord) :
    readChoice names (lead ++ (objectText [] [field] ++ rest)) = .ok (choice, rest) := by
  have nulled (rest : Bytes) : readNull (field.value.lead ++ (nullWord ++ rest)) = .ok rest := by
    rw [nullWord, List.cons_append, readNull, skipBlanks_cons field.value.lead_blank rfl]
    exact expectWord_found [0x75, 0x6C, 0x6C]
  have text : objectText [] [field] ++ rest =
      openBrace :: (field.lead ++ (quoted field.key ++ (field.gap ++
        colon :: (field.value.lead ++ (nullWord ++ (field.value.trail ++ closeBrace :: rest)))))) := by
    simp [objectText, commas_cons, Field.spelling, Item.spelling, null]
  rw [text, readChoice, skipBlanks_cons blank rfl]
  simp only [bind, Except.bind, readString_spelled field.lead_blank spelled, String.ofList_toList,
    pick_name distinct, expectByte_found (b := colon) field.gap_blank rfl, nulled,
    expectByte_found (b := closeBrace) field.value.trail_blank rfl]
  rfl

/-! ### Arrays -/

theorem nextItem_end {isFirst : Bool} (blank : Blank lead) :
    nextItem isFirst (lead ++ closeBracket :: rest) = .ok none := by
  rw [nextItem, skipBlanks_cons blank rfl]
  exact if_pos rfl

theorem nextItem_first (blank : Blank lead) (value : Value text) :
    nextItem true (lead ++ (text ++ rest)) = .ok (some (text ++ rest)) := by
  obtain ⟨b, others, rfl, notBlank, notEnd⟩ := value.starts
  rw [List.cons_append, nextItem, skipBlanks_cons blank notBlank]
  exact if_neg notEnd

theorem nextItem_next (after : Blank trail) (blank : Blank lead) (value : Value text) :
    nextItem false (trail ++ comma :: (lead ++ (text ++ rest))) = .ok (some (text ++ rest)) := by
  obtain ⟨b, others, rfl, notBlank, notEnd⟩ := value.starts
  rw [List.cons_append, nextItem, skipBlanks_cons after rfl]
  simp only [skipBlanks_cons blank notBlank, if_neg notEnd]
  rfl

/-- A reader that reads the texts of some values. -/
def Reads (read : Bytes → Read (α × Bytes)) (spells : α → Bytes → Prop) : Prop :=
  ∀ {value : α} {lead text rest : Bytes}, Blank lead → spells value text → Ends rest →
    read (lead ++ (text ++ rest)) = .ok (value, rest)

theorem Reads.read {read : Bytes → Read (α × Bytes)} {spells : α → Bytes → Prop} {value : α}
    (reads : Reads read spells) (spelled : spells value text) (ends : Ends rest) :
    read (text ++ rest) = .ok (value, rest) :=
  reads (List.forall_mem_nil _) spelled ends

section Items

variable {read : Bytes → Read (α × Bytes)} {spells : α → Bytes → Prop} {values : List α}
  {items : List Item} {rounds : Bytes}

theorem readItems_end {isFirst : Bool} (blank : Blank lead) (enough : 0 < rounds.length) :
    readItems read rounds isFirst (lead ++ closeBracket :: rest) = .ok ([], rest) := by
  obtain ⟨b, rounds, rfl⟩ := List.exists_cons_of_length_pos enough
  rw [readItems, nextItem_end blank]
  simp only [bind, Except.bind, expectByte_found (b := closeBracket) blank rfl]

theorem readItems_item {isFirst : Bool} {input found after : Bytes} {value : α} {n : Nat}
    (next : nextItem isFirst input = .ok (some found)) (reads : read found = .ok (value, after))
    (others : ∀ {rounds}, n < rounds.length → readItems read rounds false after = .ok (values, rest))
    (enough : n + 1 < rounds.length) : readItems read rounds isFirst input = .ok (value :: values, rest) := by
  obtain ⟨b, rounds, rfl⟩ := List.exists_cons_of_length_pos (Nat.zero_lt_of_lt enough)
  rw [readItems, next]
  simp only [bind, Except.bind, reads, others (Nat.lt_of_succ_lt_succ enough)]

theorem readItems_further (reads : Reads read spells) (isValue : ∀ {value text}, spells value text → Value text)
    (aligned : Aligned (fun value (item : Item) => spells value item.text) values items) (after : Blank trail)
    (enough : items.length < rounds.length) :
    readItems read rounds false
        (trail ++ ((items.map Item.spelling).flatMap (comma :: ·) ++ closeBracket :: rest)) =
      .ok (values, rest) := by
  induction aligned generalizing trail rounds with
  | nil => exact readItems_end after enough
  | @cons value item values items first _ ih =>
      rw [List.map_cons, List.flatMap_cons, Item.spelling]
      simp only [List.append_assoc, List.cons_append]
      exact readItems_item (nextItem_next after item.lead_blank (isValue first))
        (reads.read first ((Ends.parts (.inl rfl)).blanks item.trail_blank)) (ih item.trail_blank) enough

theorem readItems_array (reads : Reads read spells) (isValue : ∀ {value text}, spells value text → Value text)
    (aligned : Aligned (fun value (item : Item) => spells value item.text) values items) (blank : Blank lead)
    (enough : items.length < rounds.length) :
    readItems read rounds true (lead ++ (commas (items.map Item.spelling) ++ closeBracket :: rest)) =
      .ok (values, rest) := by
  cases aligned with
  | nil => exact readItems_end blank enough
  | @cons value item values items first others =>
      rw [List.map_cons, commas_cons, Item.spelling]
      simp only [List.append_assoc]
      rw [← List.append_assoc lead]
      exact readItems_item (nextItem_first (List.forall_mem_append.mpr ⟨blank, item.lead_blank⟩) (isValue first))
        (reads.read first ((Ends.parts (.inl rfl)).blanks item.trail_blank))
        (readItems_further reads isValue others item.trail_blank) enough

end Items

/-! ### Members -/

/-- What remains to be found for a draft to become a record. -/
def Members.Awaits : (members : Members) → members.Draft → members.Value → List Entry → Prop
  | .nil, (), (), entries => ∀ entry ∈ entries, Json.Value entry.text
  | .cons name shape rest, (found, others), (value, values), entries =>
      (found.isSome → entries.filter (·.name = name) = []) ∧
      Given (fun value text => shape.Spells value text) (found.or shape.absent?) value
          (entries.filter (·.name = name)) ∧
        rest.Awaits others values (entries.filter (·.name ≠ name))

theorem Members.awaits_blank (members : Members) {values : members.Value} {entries : List Entry}
    (among : members.Among values entries) : members.Awaits members.blank values entries := by
  cases members with
  | nil => exact among
  | cons name shape rest => exact ⟨nofun, among.1, rest.awaits_blank among.2⟩

theorem Members.build?_awaits (members : Members) {draft : members.Draft} {values : members.Value}
    (awaits : members.Awaits draft values []) : members.build? draft = some values := by
  cases members with
  | nil => rfl
  | cons name shape rest =>
      obtain ⟨found, others⟩ := draft
      obtain ⟨-, given, awaits⟩ := awaits
      have value : found.or shape.absent? = some values.1 := given
      simp [build?, value, rest.build?_awaits awaits]

/-- The values of some members can be read. -/
def Members.Reads : Members → Prop
  | .nil => True
  | .cons _ shape rest => Json.Reads shape.read (fun value text => shape.Spells value text) ∧ rest.Reads

theorem Members.readMember_awaited (members : Members) {draft : members.Draft} {values : members.Value}
    {entry : Entry} {entries : List Entry} (reads : members.Reads)
    (awaits : members.Awaits draft values (entry :: entries)) (ends : Ends rest) :
    ∃ next, members.Awaits next values entries ∧
      members.readMember entry.name draft
          (entry.field.gap ++ colon :: (entry.field.value.lead ++ (entry.text ++ rest))) = .ok (next, rest) := by
  have separated (rest : Bytes) : expectByte colon (entry.field.gap ++ colon :: rest) = .ok rest :=
    expectByte_found entry.field.gap_blank rfl
  cases members with
  | nil =>
      obtain ⟨value, values⟩ := List.forall_mem_cons.mp awaits
      refine ⟨(), values, ?_⟩
      simp [readMember, bind, Except.bind, separated, skipValue_value entry.field.value.lead_blank value ends]
  | cons name shape members =>
      obtain ⟨found, others⟩ := draft
      obtain ⟨once, given, awaits⟩ := awaits
      by_cases same : entry.name = name
      · rw [List.filter_cons_of_pos (by simpa using same)] at once given
        rw [List.filter_cons_of_neg (by simpa using same)] at awaits
        have missing : found = none := by
          cases found with
          | none => rfl
          | some value => cases once rfl
        subst missing
        cases only : entries.filter (·.name = name) with
        | nil =>
            rw [only] at given
            have spelled : shape.Spells values.1 entry.text := given
            refine ⟨(some values.1, others), ⟨fun _ => only, ?_, awaits⟩, ?_⟩
            · rw [only]; rfl
            · simp [readMember, same, bind, Except.bind, separated,
                reads.1 entry.field.value.lead_blank spelled ends]
        | cons second more => simp [only, Given] at given
      · rw [List.filter_cons_of_neg (by simpa using same)] at once given
        rw [List.filter_cons_of_pos (by simpa using same)] at awaits
        obtain ⟨next, awaits, read⟩ := members.readMember_awaited reads.2 awaits ends
        exact ⟨(found, next), ⟨once, given, awaits⟩, by simp [readMember, same, bind, Except.bind, read]⟩

/-! ### Objects -/

theorem nextKey_end {isFirst : Bool} (blank : Blank lead) :
    nextKey isFirst (lead ++ closeBrace :: rest) = .ok (none, rest) := by
  rw [nextKey, skipBlanks_cons blank rfl]
  exact if_pos rfl

/-- Reads the key whose opening quote has been found. -/
def readKey (input : Bytes) : Read (Option String × Bytes) :=
  (readText input).map fun (key, rest) => (some key, rest)

theorem readKey_spelled (entry : Entry) :
    readKey (entry.field.key ++ quoteMark :: rest) = .ok (some entry.name, rest) := by
  rw [readKey, readText_spelled entry.spelled, String.ofList_toList]
  rfl

theorem nextKey_first {key : Bytes} (blank : Blank lead) :
    nextKey true (lead ++ (quoted key ++ rest)) = readKey (key ++ quoteMark :: rest) := by
  rw [quoted, List.cons_append, nextKey, skipBlanks_cons blank rfl, List.append_assoc]
  simp [show quoteMark ≠ closeBrace by decide, readKey]

theorem nextKey_next {key : Bytes} (after : Blank trail) (blank : Blank lead) :
    nextKey false (trail ++ comma :: (lead ++ (quoted key ++ rest))) = readKey (key ++ quoteMark :: rest) := by
  rw [quoted, List.cons_append, nextKey, skipBlanks_cons after rfl, List.append_assoc]
  simp [show comma ≠ closeBrace by decide, skipBlanks_cons blank (b := quoteMark) rfl, readKey]

section Entries

variable {members : Members} {draft : members.Draft} {values : members.Value} {entries : List Entry}
  {rounds : Bytes}

theorem readMembers_end {isFirst : Bool} (awaits : members.Awaits draft values []) (blank : Blank lead)
    (enough : 0 < rounds.length) :
    ∃ done, members.build? done = some values ∧
      readMembers members.readMember rounds isFirst draft (lead ++ closeBrace :: rest) = .ok (done, rest) := by
  obtain ⟨b, rounds, rfl⟩ := List.exists_cons_of_length_pos enough
  refine ⟨draft, members.build?_awaits awaits, ?_⟩
  rw [readMembers, nextKey_end blank]
  rfl

theorem readMembers_entry {isFirst : Bool} {input after : Bytes} {entry : Entry} {n : Nat}
    (reads : members.Reads) (awaits : members.Awaits draft values (entry :: entries))
    (next : nextKey isFirst input = readKey (entry.field.key ++ quoteMark ::
      (entry.field.gap ++ colon :: (entry.field.value.lead ++ (entry.text ++ after))))) (ends : Ends after)
    (others : ∀ {draft rounds}, members.Awaits draft values entries → n < rounds.length →
      ∃ done, members.build? done = some values ∧
        readMembers members.readMember rounds false draft after = .ok (done, rest))
    (enough : n + 1 < rounds.length) :
    ∃ done, members.build? done = some values ∧
      readMembers members.readMember rounds isFirst draft input = .ok (done, rest) := by
  obtain ⟨b, rounds, rfl⟩ := List.exists_cons_of_length_pos (Nat.zero_lt_of_lt enough)
  obtain ⟨draft', awaits, read⟩ := members.readMember_awaited reads awaits ends
  obtain ⟨done, builds, others⟩ := others awaits (Nat.lt_of_succ_lt_succ enough)
  refine ⟨done, builds, ?_⟩
  rw [readMembers, next, readKey_spelled]
  simp only [bind, Except.bind, read, others]

theorem readMembers_further (reads : members.Reads) (awaits : members.Awaits draft values entries)
    (after : Blank trail) (enough : entries.length < rounds.length) :
    ∃ done, members.build? done = some values ∧
      readMembers members.readMember rounds false draft
        (trail ++ (((entries.map Entry.field).map Field.spelling).flatMap (comma :: ·) ++ closeBrace :: rest)) =
          .ok (done, rest) := by
  induction entries generalizing draft trail rounds with
  | nil => exact readMembers_end awaits after enough
  | cons entry entries ih =>
      simp only [List.map_cons, List.flatMap_cons, Field.spelling, Item.spelling, List.append_assoc,
        List.cons_append]
      exact readMembers_entry reads awaits (nextKey_next after entry.field.lead_blank)
        ((Ends.parts (.inr rfl)).blanks entry.field.value.trail_blank)
        (fun awaits => ih awaits entry.field.value.trail_blank) enough

theorem readMembers_object (rest : Bytes) (reads : members.Reads) (awaits : members.Awaits draft values entries)
    (blank : Blank lead) (enough : entries.length < rounds.length) :
    ∃ done, members.build? done = some values ∧
      readMembers members.readMember rounds true draft
        (lead ++ (commas ((entries.map Entry.field).map Field.spelling) ++ closeBrace :: rest)) =
          .ok (done, rest) := by
  cases entries with
  | nil => exact readMembers_end awaits blank enough
  | cons entry entries =>
      simp only [List.map_cons, commas_cons, Field.spelling, Item.spelling, List.append_assoc,
        List.cons_append]
      rw [← List.append_assoc lead]
      exact readMembers_entry reads awaits
        (nextKey_first (List.forall_mem_append.mpr ⟨blank, entry.field.lead_blank⟩))
        ((Ends.parts (.inr rfl)).blanks entry.field.value.trail_blank)
        (fun awaits => readMembers_further reads awaits entry.field.value.trail_blank) enough

end Entries

/-! ### Records in order -/

theorem readInOrder_item {name : String} {shape : Shape} {members : Members} {isFirst : Bool}
    {input found after : Bytes} {value : shape.Value} {values : members.Value}
    (next : nextItem isFirst input = .ok (some found)) (read : shape.read found = .ok (value, after))
    (others : members.readInOrder false after = .ok (values, rest)) :
    (Members.cons name shape members).readInOrder isFirst input = .ok ((value, values), rest) := by
  simp [Members.readInOrder, next, read, others, bind, Except.bind]

theorem readInOrder_further (members : Members) {values : members.Value} {items : List Item} {trail : Bytes}
    (reads : members.Reads) (inOrder : members.InOrder values items) (after : Blank trail) :
    ∃ left, Blank left ∧ ∀ rest,
      members.readInOrder false
        (trail ++ ((items.map Item.spelling).flatMap (comma :: ·) ++ closeBracket :: rest)) =
          .ok (values, left ++ closeBracket :: rest) := by
  cases members with
  | nil =>
      obtain rfl : items = [] := inOrder
      exact ⟨trail, after, fun _ => rfl⟩
  | cons name shape members =>
      obtain ⟨item, items, rfl, spells, inOrder⟩ := inOrder
      obtain ⟨left, blank, others⟩ := readInOrder_further members reads.2 inOrder item.trail_blank
      refine ⟨left, blank, fun rest => ?_⟩
      simp only [List.map_cons, List.flatMap_cons, Item.spelling, List.append_assoc, List.cons_append]
      exact readInOrder_item (nextItem_next after item.lead_blank spells.isValue)
        (Reads.read reads.1 spells ((Ends.parts (.inl rfl)).blanks item.trail_blank)) (others rest)

theorem readInOrder_array {members : Members} {values : members.Value} {items : List Item}
    (reads : members.Reads) (inOrder : members.InOrder values items) (blank : Blank lead) :
    ∃ left, Blank left ∧ ∀ rest,
      members.readInOrder true (lead ++ (commas (items.map Item.spelling) ++ closeBracket :: rest)) =
        .ok (values, left ++ closeBracket :: rest) := by
  cases members with
  | nil =>
      obtain rfl : items = [] := inOrder
      exact ⟨lead, blank, fun _ => rfl⟩
  | cons name shape members =>
      obtain ⟨item, items, rfl, spells, inOrder⟩ := inOrder
      obtain ⟨left, leftBlank, others⟩ := readInOrder_further members reads.2 inOrder item.trail_blank
      refine ⟨left, leftBlank, fun rest => ?_⟩
      simp only [List.map_cons, commas_cons, Item.spelling, List.append_assoc]
      rw [← List.append_assoc lead]
      exact readInOrder_item
        (nextItem_first (List.forall_mem_append.mpr ⟨blank, item.lead_blank⟩) spells.isValue)
        (Reads.read reads.1 spells ((Ends.parts (.inl rfl)).blanks item.trail_blank)) (others rest)

/-! ### All shapes -/

theorem length_commas (parts : List Bytes) : parts.length ≤ (commas parts).length + 1 := by
  cases parts with
  | nil => exact Nat.zero_le _
  | cons part parts =>
      have further : parts.length ≤ (parts.flatMap (comma :: ·)).length := by
        induction parts with
        | nil => exact Nat.le_refl _
        | cons next parts ih =>
            simp only [List.flatMap_cons, List.length_append, List.length_cons]
            omega
      rw [commas_cons, List.length_append, List.length_cons]
      omega

/-- What may not be null does not start like it. -/
theorem Shape.Spells.not_null {shape : Shape} {value : shape.Value} (notOption : shape.isOption = false)
    (spells : shape.Spells value (b :: rest)) : b ≠ 0x6E := by
  cases shape with
  | text =>
      obtain ⟨body, same, -⟩ := spells
      cases same
      decide
  | natural bound =>
      obtain ⟨d, others, same, digit⟩ := spells.1.starts
      cases same
      exact ne_of_digit digit rfl
  | choice names =>
      obtain ⟨body, -, same | ⟨field, -, -, same⟩⟩ := spells <;> cases same <;> decide
  | option shape => cases notOption
  | list item =>
      obtain ⟨blanks, items, -, same, -⟩ := spells
      cases same
      decide
  | record members =>
      rcases spells with ⟨blanks, items, -, same, -⟩ | ⟨blanks, entries, -, same, -⟩ <;> cases same <;> decide

/-- An array or an object has more bytes than parts. -/
theorem length_parts {parts : List Bytes} {blanks : Bytes} {close : UInt8} {n : Nat}
    (count : parts.length = n) : n < (lead ++ b :: (blanks ++ (commas parts ++ close :: rest))).length := by
  have enough := length_commas parts
  simp only [List.length_append, List.length_cons]
  omega

mutual

theorem Shape.reads (shape : Shape) (legible : shape.isLegible = true) :
    Reads shape.read (fun value text => shape.Spells value text) := by
  intro value lead text rest blank spells ends
  cases shape with
  | text =>
      obtain ⟨body, rfl, spelled⟩ := spells
      have read : readString (lead ++ (quoted body ++ rest)) = .ok (String.ofList value.toList, rest) :=
        readString_spelled blank spelled
      rwa [String.ofList_toList] at read
  | natural bound =>
      obtain ⟨whole, same⟩ := spells
      have below : decimalValue text < bound := same ▸ value.isLt
      have fits : bound ≤ UInt64.size := of_decide_eq_true legible
      obtain rfl : value = ⟨decimalValue text, below⟩ := Fin.ext same.symm
      exact readNatural_whole blank whole below fits ends
  | choice names =>
      have distinct : names.Nodup := of_decide_eq_true legible
      obtain ⟨body, spelled, rfl | ⟨field, rfl, null, rfl⟩⟩ := spells
      · exact readChoice_quoted distinct blank spelled
      · exact readChoice_keyed distinct blank spelled null
  | option shape =>
      obtain ⟨notOption, legible⟩ : shape.isOption = false ∧ shape.isLegible = true := by
        simpa [Shape.isLegible] using legible
      cases value with
      | none =>
          obtain rfl : text = nullWord := spells
          have word : expectWord [0x75, 0x6C, 0x6C] ([0x75, 0x6C, 0x6C] ++ rest) = .ok rest :=
            expectWord_found _
          rw [nullWord, List.cons_append, Shape.read, skipBlanks_cons blank rfl]
          simp only [if_true, word, bind, Except.bind]
      | some value =>
          have spells : shape.Spells value text := spells
          obtain ⟨b, others, rfl, notBlank, -⟩ := spells.isValue.starts
          have read := Reads.read (shape.reads legible) spells ends
          rw [List.cons_append] at read ⊢
          rw [Shape.read, skipBlanks_cons blank notBlank]
          simp [spells.not_null notOption, read, bind, Except.bind]
  | list item =>
      obtain ⟨blanks, items, itemsBlank, rfl, aligned⟩ := spells
      simp only [arrayText, List.cons_append, List.append_assoc, List.nil_append]
      rw [Shape.read, skipBlanks_cons blank rfl]
      exact readItems_array (item.reads legible) Shape.Spells.isValue aligned itemsBlank
        (length_parts (List.length_map _))
  | record members =>
      have readable := members.reads legible
      rcases spells with ⟨blanks, items, itemsBlank, rfl, inOrder⟩ | ⟨blanks, entries, fieldsBlank, rfl, among⟩
      · obtain ⟨left, leftBlank, read⟩ := readInOrder_array readable inOrder itemsBlank
        simp only [arrayText, List.cons_append, List.append_assoc, List.nil_append]
        rw [Shape.read, skipBlanks_cons blank rfl]
        simp only [if_true, bind, Except.bind, read, expectByte_found (b := closeBracket) leftBlank rfl]
      · have enough : entries.length < (lead ++ openBrace :: (blanks ++
            (commas ((entries.map Entry.field).map Field.spelling) ++ closeBrace :: rest))).length :=
          length_parts (by rw [List.length_map, List.length_map])
        obtain ⟨done, builds, read⟩ :=
          readMembers_object rest readable (members.awaits_blank among) fieldsBlank enough
        simp only [objectText, List.cons_append, List.append_assoc, List.nil_append]
        rw [Shape.read, skipBlanks_cons blank rfl]
        simp only [show openBrace ≠ openBracket by decide, if_true, if_false, bind, Except.bind, read, builds]

theorem Members.reads (members : Members) (legible : members.isLegible = true) : members.Reads := by
  cases members with
  | nil => trivial
  | cons name shape members =>
      simp only [Members.isLegible, Bool.and_eq_true] at legible
      exact ⟨shape.reads legible.1.2, members.reads legible.2⟩

end

/-- A text that spells a value is read as that value, and nothing is left over. -/
theorem Shape.parse_spelled {shape : Shape} {value : shape.Value} (legible : shape.isLegible = true)
    (spells : shape.Spells value text) (before : Blank lead) (after : Blank trail) :
    shape.parse (lead ++ (text ++ trail)) = .ok value := by
  have nothing : skipBlanks trail = [] := by
    have all : (trail ++ []).dropWhile isBlank = [].dropWhile isBlank := List.dropWhile_append_of_pos after
    rwa [List.append_nil] at all
  have nothingGoesOn : Ends [] := nofun
  have ends : Ends trail := List.append_nil trail ▸ nothingGoesOn.blanks after
  rw [parse, shape.reads legible before spells ends]
  simp [bind, Except.bind, nothing]

theorem decode_spelled {α : Type} [Wire α] {a : α} (legible : (Wire.shape α).isLegible = true)
    (spells : (Wire.shape α).Spells (Wire.toValue a) text) (before : Blank lead) (after : Blank trail) :
    decode (lead ++ (text ++ trail)) = .ok a := by
  rw [decode, Shape.parse_spelled legible spells before after, Except.map, Wire.ofValue_toValue]

end NetSwitch.Json
