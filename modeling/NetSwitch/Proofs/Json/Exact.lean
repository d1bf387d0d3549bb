import NetSwitch.Proofs.Json.Found

/-! What is read is spelled: a text is read as a value only if it spells it.

This is the converse of reading what is spelled, and goes the same way through the shapes.
-/

namespace NetSwitch.Json

variable {b : UInt8} {input rest : Bytes}

/-! ### Arrays -/

/-- A reader that reads only what spells its values. -/
def Finds (read : Bytes → Read (α × Bytes)) (spells : α → Bytes → Prop) : Prop :=
  ∀ {input rest : Bytes} {value : α}, read input = .ok (value, rest) →
    ∃ lead text, Blank lead ∧ spells value text ∧ input = lead ++ (text ++ rest)

/-- More parts, with commas before them, and the end. -/
def Further (close : UInt8) (parts : List Bytes) (rest input : Bytes) : Prop :=
  ∃ trail, Blank trail ∧ input = trail ++ (parts.flatMap (comma :: ·) ++ close :: rest)

/-- All parts, with commas between them, and the end. -/
def Listed (close : UInt8) (parts : List Bytes) (rest input : Bytes) : Prop :=
  ∃ blanks, Blank blanks ∧ input = blanks ++ (commas parts ++ close :: rest)

theorem nextItem_first_ok {found : Bytes} (next : nextItem true input = .ok (some found)) :
    ∃ lead, Blank lead ∧ input = lead ++ found := by
  unfold nextItem at next
  split at next
  case h_1 => cases next
  case h_2 seen =>
    split at next
    case isTrue => cases next
    case isFalse =>
      cases next
      exact skipBlanks_found seen

theorem nextItem_next_ok {found : Bytes} (next : nextItem false input = .ok (some found)) :
    ∃ trail lead, Blank trail ∧ Blank lead ∧ input = trail ++ comma :: (lead ++ found) := by
  unfold nextItem at next
  split at next
  case h_1 => cases next
  case h_2 seen =>
    obtain ⟨trail, after, rfl⟩ := skipBlanks_found seen
    split at next
    case isTrue => cases next
    case isFalse =>
    split at next
    case isTrue impossible => cases impossible
    case isFalse =>
    split at next
    case isTrue separates =>
      split at next
      case h_1 => cases next
      case h_2 seen =>
        split at next
        case isTrue => cases next
        case isFalse =>
          cases next
          obtain ⟨lead, blank, rfl⟩ := skipBlanks_found seen
          exact ⟨trail, lead, after, blank, by rw [separates]⟩
    case isFalse => cases next

section Items

variable {read : Bytes → Read (α × Bytes)} {spells : α → Bytes → Prop} {values : List α} {rounds : Bytes}

/-- In each round the array ends, or one more item is found and read. -/
theorem readItems_round {isFirst : Bool} (finds : Finds read spells)
    (reads : readItems read (b :: rounds) isFirst input = .ok (values, rest)) :
    (values = [] ∧ ∃ lead, Blank lead ∧ input = lead ++ closeBracket :: rest) ∨
      ∃ lead text after value others, nextItem isFirst input = .ok (some (lead ++ (text ++ after))) ∧
        Blank lead ∧ spells value text ∧ readItems read rounds false after = .ok (others, rest) ∧
        values = value :: others := by
  obtain ⟨found, next, reads⟩ := bind_ok.mp reads
  cases found with
  | none =>
      obtain ⟨after, closes, reads⟩ := bind_ok.mp reads
      cases reads
      exact .inl ⟨rfl, expectByte_ok closes⟩
  | some found =>
      obtain ⟨⟨value, after⟩, readsItem, reads⟩ := bind_ok.mp reads
      obtain ⟨⟨others, last⟩, readsOthers, reads⟩ := bind_ok.mp reads
      cases reads
      obtain ⟨lead, text, blank, spelled, rfl⟩ := finds readsItem
      exact .inr ⟨lead, text, after, value, others, next, blank, spelled, readsOthers, rfl⟩

theorem readItems_further_ok (finds : Finds read spells)
    (reads : readItems read rounds false input = .ok (values, rest)) :
    ∃ items, Aligned (fun value (item : Item) => spells value item.text) values items ∧
      Further closeBracket (items.map Item.spelling) rest input := by
  induction rounds generalizing input values with
  | nil => cases reads
  | cons b rounds ih =>
      rcases readItems_round finds reads with
        ⟨rfl, ends⟩ | ⟨before, text, after, value, others, next, beforeBlank, spelled, readsOthers, rfl⟩
      · exact ⟨[], .nil, ends⟩
      · obtain ⟨trail, lead, afterBlank, leadBlank, rfl⟩ := nextItem_next_ok next
        obtain ⟨items, aligned, inside, insideBlank, rfl⟩ := ih readsOthers
        have blank : Blank (lead ++ before) := List.forall_mem_append.mpr ⟨leadBlank, beforeBlank⟩
        exact ⟨⟨lead ++ before, text, inside, blank, insideBlank⟩ :: items, .cons spelled aligned,
          trail, afterBlank, by simp [Item.spelling]⟩

theorem readItems_array_ok (finds : Finds read spells)
    (reads : readItems read rounds true input = .ok (values, rest)) :
    ∃ items, Aligned (fun value (item : Item) => spells value item.text) values items ∧
      Listed closeBracket (items.map Item.spelling) rest input := by
  cases rounds with
  | nil => cases reads
  | cons b rounds =>
      rcases readItems_round finds reads with
        ⟨rfl, ends⟩ | ⟨before, text, after, value, others, next, beforeBlank, spelled, readsOthers, rfl⟩
      · exact ⟨[], .nil, ends⟩
      · obtain ⟨lead, leadBlank, rfl⟩ := nextItem_first_ok next
        obtain ⟨items, aligned, inside, insideBlank, rfl⟩ := readItems_further_ok finds readsOthers
        exact ⟨⟨before, text, inside, beforeBlank, insideBlank⟩ :: items, .cons spelled aligned,
          lead, leadBlank, by simp [commas_cons, Item.spelling]⟩

end Items

/-! ### Objects -/

theorem readKey_ok {key : Option String} (reads : readKey input = .ok (key, rest)) :
    ∃ name body, key = some name ∧ Spelled body name.toList ∧ input = body ++ quoteMark :: rest := by
  obtain ⟨⟨name, after⟩, readsName, same⟩ := map_ok.mp reads
  cases same
  obtain ⟨body, spelled, rfl⟩ := readText_ok readsName
  exact ⟨name, body, rfl, spelled, rfl⟩

theorem nextKey_ok {isFirst : Bool} {key : Option String} (next : nextKey isFirst input = .ok (key, rest)) :
    (key = none ∧ ∃ lead, Blank lead ∧ input = lead ++ closeBrace :: rest) ∨
      ∃ name body lead, key = some name ∧ Spelled body name.toList ∧ Blank lead ∧
        if isFirst then input = lead ++ (quoted body ++ rest)
        else ∃ trail, Blank trail ∧ input = trail ++ comma :: (lead ++ (quoted body ++ rest)) := by
  unfold nextKey at next
  split at next
  case h_1 => cases next
  case h_2 seen =>
  obtain ⟨lead, leadBlank, rfl⟩ := skipBlanks_found seen
  split at next
  case isTrue closes =>
    cases next
    exact .inl ⟨rfl, lead, leadBlank, closes ▸ rfl⟩
  case isFalse =>
  split at next
  case isTrue first =>
    split at next
    case isTrue isQuote =>
      obtain ⟨name, body, rfl, spelled, rfl⟩ := readKey_ok next
      exact .inr ⟨name, body, lead, rfl, spelled, leadBlank, by simp [first, isQuote, quoted]⟩
    case isFalse => cases next
  case isFalse further =>
  split at next
  case isTrue separates =>
    split at next
    case h_1 => cases next
    case h_2 seen =>
      obtain ⟨before, beforeBlank, rfl⟩ := skipBlanks_found seen
      split at next
      case isTrue isQuote =>
        obtain ⟨name, body, rfl, spelled, rfl⟩ := readKey_ok next
        refine .inr ⟨name, body, before, rfl, spelled, beforeBlank, ?_⟩
        rw [if_neg further]
        exact ⟨lead, leadBlank, by simp [separates, isQuote, quoted]⟩
      case isFalse => cases next
  case isFalse => cases next

theorem Members.awaits_of_build? (members : Members) {done : members.Draft} {values : members.Value}
    (builds : members.build? done = some values) : members.Awaits done values [] := by
  cases members with
  | nil => exact nofun
  | cons name shape rest =>
      obtain ⟨found, others⟩ := done
      obtain ⟨value, given, builds⟩ := Option.bind_eq_some_iff.mp builds
      obtain ⟨values, buildsOthers, builds⟩ := Option.bind_eq_some_iff.mp builds
      cases builds
      exact ⟨fun _ => rfl, given, rest.awaits_of_build? buildsOthers⟩

theorem Members.among_of_awaits (members : Members) {values : members.Value} {entries : List Entry}
    (awaits : members.Awaits members.blank values entries) : members.Among values entries := by
  cases members with
  | nil => exact awaits
  | cons name shape rest => exact ⟨awaits.2.1, rest.among_of_awaits awaits.2.2⟩

/-- The values of some members are read only if they are spelled. -/
def Members.Finds : Members → Prop
  | .nil => True
  | .cons _ shape rest => Json.Finds shape.read (fun value text => shape.Spells value text) ∧ rest.Finds

/-- What a draft awaited before a member was read is that member, and what it awaits afterwards. -/
theorem Members.readMember_ok (members : Members) {draft next : members.Draft} {key : String}
    (finds : members.Finds) (reads : members.readMember key draft input = .ok (next, rest)) :
    ∃ gap lead text, Blank gap ∧ Blank lead ∧ input = gap ++ colon :: (lead ++ (text ++ rest)) ∧
      ∀ {values : members.Value} {entry : Entry} {entries : List Entry}, entry.name = key →
        entry.text = text → members.Awaits next values entries →
          members.Awaits draft values (entry :: entries) := by
  cases members with
  | nil =>
      obtain ⟨after, separates, reads⟩ := bind_ok.mp reads
      obtain ⟨last, skips, reads⟩ := bind_ok.mp reads
      cases reads
      obtain ⟨gap, gapBlank, rfl⟩ := expectByte_ok separates
      obtain ⟨lead, text, leadBlank, value, rfl⟩ := skipValue_ok skips
      refine ⟨gap, lead, text, gapBlank, leadBlank, rfl, fun _ isText values => ?_⟩
      exact List.forall_mem_cons.mpr ⟨isText ▸ value, values⟩
  | cons name shape members =>
      obtain ⟨found, others⟩ := draft
      rw [readMember] at reads
      split at reads
      case isTrue same =>
        split at reads
        case isTrue => cases reads
        case isFalse missing =>
          obtain rfl : found = none := by simpa using missing
          obtain ⟨after, separates, reads⟩ := bind_ok.mp reads
          obtain ⟨⟨value, last⟩, readsValue, reads⟩ := bind_ok.mp reads
          cases reads
          obtain ⟨gap, gapBlank, rfl⟩ := expectByte_ok separates
          obtain ⟨lead, text, leadBlank, spells, rfl⟩ := finds.1 readsValue
          refine ⟨gap, lead, text, gapBlank, leadBlank, rfl, ?_⟩
          rintro values entry entries named rfl ⟨once, given, awaits⟩
          have noMore := once rfl
          rw [noMore] at given
          obtain rfl : value = values.1 := Option.some.inj given
          refine ⟨by simp, ?_, ?_⟩
          · rw [List.filter_cons_of_pos (by simp [named, same]), noMore]
            exact spells
          · rwa [List.filter_cons_of_neg (by simp [named, same])]
      case isFalse different =>
        obtain ⟨⟨others', after⟩, readsRest, reads⟩ := bind_ok.mp reads
        cases reads
        obtain ⟨gap, lead, text, gapBlank, leadBlank, spelling, before⟩ :=
          members.readMember_ok finds.2 readsRest
        refine ⟨gap, lead, text, gapBlank, leadBlank, spelling, ?_⟩
        rintro values entry entries named isText ⟨once, given, awaits⟩
        refine ⟨?_, ?_, ?_⟩
        · rwa [List.filter_cons_of_neg (by simp [named, different])]
        · rwa [List.filter_cons_of_neg (by simp [named, different])]
        · rw [List.filter_cons_of_pos (by simp [named, different])]
          exact before named isText awaits

section Entries

variable {members : Members} {draft done : members.Draft} {values : members.Value} {rounds : Bytes}

theorem readMembers_further_ok (finds : members.Finds) (builds : members.build? done = some values)
    (reads : readMembers members.readMember rounds false draft input = .ok (done, rest)) :
    ∃ entries, members.Awaits draft values entries ∧
      Further closeBrace ((entries.map Entry.field).map Field.spelling) rest input := by
  induction rounds generalizing input draft with
  | nil => cases reads
  | cons b rounds ih =>
      obtain ⟨⟨key, after⟩, next, goesOn⟩ := bind_ok.mp reads
      rcases nextKey_ok next with
        ⟨rfl, ends⟩ | ⟨name, body, lead, rfl, spelled, leadBlank, trail, trailBlank, rfl⟩
      · cases goesOn
        exact ⟨[], members.awaits_of_build? builds, ends⟩
      · obtain ⟨⟨middle, last⟩, readsMember, readsOthers⟩ := bind_ok.mp goesOn
        obtain ⟨gap, before, text, gapBlank, beforeBlank, rfl, awaits⟩ :=
          members.readMember_ok finds readsMember
        obtain ⟨entries, others, inside, insideBlank, rfl⟩ := ih readsOthers
        let value : Item := ⟨before, text, inside, beforeBlank, insideBlank⟩
        let entry : Entry := ⟨name, ⟨lead, body, gap, value, leadBlank, gapBlank⟩, spelled⟩
        refine ⟨entry :: entries, awaits rfl rfl others, trail, trailBlank, ?_⟩
        simp [entry, value, Field.spelling, Item.spelling]

theorem readMembers_object_ok (finds : members.Finds) (builds : members.build? done = some values)
    (reads : readMembers members.readMember rounds true draft input = .ok (done, rest)) :
    ∃ entries, members.Awaits draft values entries ∧
      Listed closeBrace ((entries.map Entry.field).map Field.spelling) rest input := by
  cases rounds with
  | nil => cases reads
  | cons b rounds =>
      obtain ⟨⟨key, after⟩, next, goesOn⟩ := bind_ok.mp reads
      rcases nextKey_ok next with ⟨rfl, ends⟩ | ⟨name, body, lead, rfl, spelled, leadBlank, rfl⟩
      · cases goesOn
        exact ⟨[], members.awaits_of_build? builds, ends⟩
      · obtain ⟨⟨middle, last⟩, readsMember, readsOthers⟩ := bind_ok.mp goesOn
        obtain ⟨gap, before, text, gapBlank, beforeBlank, rfl, awaits⟩ :=
          members.readMember_ok finds readsMember
        obtain ⟨entries, others, inside, insideBlank, rfl⟩ := readMembers_further_ok finds builds readsOthers
        let value : Item := ⟨before, text, inside, beforeBlank, insideBlank⟩
        let entry : Entry := ⟨name, ⟨lead, body, gap, value, leadBlank, gapBlank⟩, spelled⟩
        refine ⟨entry :: entries, awaits rfl rfl others, [], nofun, ?_⟩
        simp [commas_cons, entry, value, Field.spelling, Item.spelling]

end Entries

/-! ### Records in order -/

/-- For each member one more item is found and read. -/
theorem readInOrder_round {name : String} {shape : Shape} {members : Members} {value : shape.Value}
    {values : members.Value} {isFirst : Bool} {left : Bytes} (finds : (Members.cons name shape members).Finds)
    (reads : (Members.cons name shape members).readInOrder isFirst input = .ok ((value, values), left)) :
    ∃ lead text after, nextItem isFirst input = .ok (some (lead ++ (text ++ after))) ∧ Blank lead ∧
      shape.Spells value text ∧ members.readInOrder false after = .ok (values, left) := by
  obtain ⟨found, next, reads⟩ := bind_ok.mp reads
  cases found with
  | none => cases reads
  | some found =>
      obtain ⟨⟨value, after⟩, readsItem, reads⟩ := bind_ok.mp reads
      obtain ⟨⟨others, last⟩, readsOthers, reads⟩ := bind_ok.mp reads
      cases reads
      obtain ⟨lead, text, blank, spells, rfl⟩ := finds.1 readsItem
      exact ⟨lead, text, after, next, blank, spells, readsOthers⟩

theorem readInOrder_further_ok (members : Members) {values : members.Value} {input left rest : Bytes}
    (finds : members.Finds) (closes : expectByte closeBracket left = .ok rest)
    (reads : members.readInOrder false input = .ok (values, left)) :
    ∃ items, members.InOrder values items ∧ Further closeBracket (items.map Item.spelling) rest input := by
  cases members with
  | nil =>
      cases reads
      exact ⟨[], rfl, expectByte_ok closes⟩
  | cons name shape members =>
      obtain ⟨before, text, after, next, beforeBlank, spells, readsOthers⟩ := readInOrder_round finds reads
      obtain ⟨trail, lead, afterBlank, leadBlank, rfl⟩ := nextItem_next_ok next
      obtain ⟨items, inOrder, inside, insideBlank, rfl⟩ :=
        readInOrder_further_ok members finds.2 closes readsOthers
      have blank : Blank (lead ++ before) := List.forall_mem_append.mpr ⟨leadBlank, beforeBlank⟩
      exact ⟨_, ⟨⟨lead ++ before, text, inside, blank, insideBlank⟩, items, rfl, spells, inOrder⟩,
        trail, afterBlank, by simp [Item.spelling]⟩

theorem readInOrder_array_ok (members : Members) {values : members.Value} {left : Bytes}
    (finds : members.Finds) (closes : expectByte closeBracket left = .ok rest)
    (reads : members.readInOrder true input = .ok (values, left)) :
    ∃ items, members.InOrder values items ∧ Listed closeBracket (items.map Item.spelling) rest input := by
  cases members with
  | nil =>
      cases reads
      exact ⟨[], rfl, expectByte_ok closes⟩
  | cons name shape members =>
      obtain ⟨before, text, after, next, beforeBlank, spells, readsOthers⟩ := readInOrder_round finds reads
      obtain ⟨lead, leadBlank, rfl⟩ := nextItem_first_ok next
      obtain ⟨items, inOrder, inside, insideBlank, rfl⟩ :=
        readInOrder_further_ok members finds.2 closes readsOthers
      exact ⟨_, ⟨⟨before, text, inside, beforeBlank, insideBlank⟩, items, rfl, spells, inOrder⟩,
        lead, leadBlank, by simp [commas_cons, Item.spelling]⟩

/-! ### All shapes -/

mutual

theorem Shape.finds (shape : Shape) : Finds shape.read (fun value text => shape.Spells value text) := by
  intro input rest value reads
  cases shape with
  | text =>
      obtain ⟨lead, body, blank, spelled, rfl⟩ := readString_ok reads
      exact ⟨lead, quoted body, blank, ⟨body, rfl, spelled⟩, rfl⟩
  | natural bound => exact readNatural_ok reads
  | choice names => exact readChoice_ok reads
  | option shape =>
      rw [Shape.read] at reads
      split at reads
      case h_1 b after found =>
        obtain ⟨lead, blank, rfl⟩ := skipBlanks_found found
        split at reads
        case isTrue first =>
          obtain ⟨left, expects, reads⟩ := bind_ok.mp reads
          cases reads
          exact ⟨lead, nullWord, blank, rfl, by rw [first, expectWord_ok expects]; rfl⟩
        case isFalse =>
          obtain ⟨⟨value, left⟩, readsValue, reads⟩ := bind_ok.mp reads
          cases reads
          obtain ⟨before, text, beforeBlank, spells, same⟩ := shape.finds readsValue
          refine ⟨lead ++ before, text, List.forall_mem_append.mpr ⟨blank, beforeBlank⟩, spells, ?_⟩
          rw [same, List.append_assoc]
      case h_2 => cases reads
  | list item =>
      rw [Shape.read] at reads
      split at reads
      case h_1 => cases reads
      case h_2 found =>
        obtain ⟨lead, blank, rfl⟩ := skipBlanks_found found
        split at reads
        case isTrue opens =>
          obtain ⟨items, aligned, blanks, inside, rfl⟩ := readItems_array_ok item.finds reads
          exact ⟨lead, arrayText blanks items, blank, ⟨blanks, items, inside, rfl, aligned⟩,
            by simp [opens, arrayText]⟩
        case isFalse => cases reads
  | record members =>
      rw [Shape.read] at reads
      split at reads
      case h_1 => cases reads
      case h_2 found =>
        obtain ⟨lead, blank, rfl⟩ := skipBlanks_found found
        split at reads
        case isTrue opens =>
          obtain ⟨⟨values, left⟩, readsItems, reads⟩ := bind_ok.mp reads
          obtain ⟨last, closes, reads⟩ := bind_ok.mp reads
          cases reads
          obtain ⟨items, inOrder, blanks, inside, rfl⟩ :=
            readInOrder_array_ok members members.finds closes readsItems
          exact ⟨lead, arrayText blanks items, blank, .inl ⟨blanks, items, inside, rfl, inOrder⟩,
            by simp [opens, arrayText]⟩
        case isFalse =>
        split at reads
        case isTrue opens =>
          obtain ⟨⟨done, left⟩, readsMembers, reads⟩ := bind_ok.mp reads
          dsimp only at reads
          split at reads
          case h_1 values builds =>
            cases reads
            obtain ⟨entries, awaits, blanks, inside, rfl⟩ :=
              readMembers_object_ok members.finds builds readsMembers
            exact ⟨lead, objectText blanks (entries.map Entry.field), blank,
              .inr ⟨blanks, entries, inside, rfl, members.among_of_awaits awaits⟩,
              by simp [opens, objectText]⟩
          case h_2 => cases reads
        case isFalse => cases reads

theorem Members.finds (members : Members) : members.Finds := by
  cases members with
  | nil => trivial
  | cons name shape members => exact ⟨shape.finds, members.finds⟩

end

theorem Shape.parse_ok {shape : Shape} {value : shape.Value} (parses : shape.parse input = .ok value) :
    ∃ lead text trail, Blank lead ∧ Blank trail ∧ shape.Spells value text ∧
      input = lead ++ (text ++ trail) := by
  obtain ⟨⟨found, trail⟩, reads, ends⟩ := bind_ok.mp parses
  dsimp only at ends
  split at ends
  case isTrue nothing =>
    cases ends
    obtain ⟨lead, text, before, spells, rfl⟩ := shape.finds reads
    exact ⟨lead, text, trail, before, skipBlanks_nothing (List.isEmpty_iff.mp nothing), spells, rfl⟩
  case isFalse => cases ends

/-- A text is read as a value if and only if it spells it, with blanks around it. -/
theorem Shape.parse_iff {shape : Shape} {value : shape.Value} (legible : shape.isLegible = true) :
    shape.parse input = .ok value ↔ ∃ lead text trail, Blank lead ∧ Blank trail ∧ shape.Spells value text ∧
      input = lead ++ (text ++ trail) := by
  constructor
  · exact Shape.parse_ok
  · rintro ⟨lead, text, trail, before, after, spells, rfl⟩
    exact Shape.parse_spelled legible spells before after

theorem decode_iff {α : Type} [Wire α] {a : α} (legible : (Wire.shape α).isLegible = true) :
    decode input = .ok a ↔ ∃ lead text trail, Blank lead ∧ Blank trail ∧
      (Wire.shape α).Spells (Wire.toValue a) text ∧ input = lead ++ (text ++ trail) := by
  rw [decode, map_ok]
  constructor
  · rintro ⟨value, parses, rfl⟩
    rw [Wire.toValue_ofValue]
    exact (Shape.parse_iff legible).mp parses
  · exact fun spelled => ⟨_, (Shape.parse_iff legible).mpr spelled, Wire.ofValue_toValue a⟩

end NetSwitch.Json
