import NetSwitch.Proofs.Json.Exact
import NetSwitch.Proofs.Json.Writer

/-! Texts that are cut off.

Wherever what is written for a value is cut off, a reader of the value does not get past the cut: it
finds that the text ends too early, or it has taken a number for a shorter one and has nothing left.
What comes after a part of a text never lets it end there, so that the whole text ends too early.
-/

namespace NetSwitch.Json

variable {b : UInt8} {body decoded lead more part rest text : Bytes} {cs : List Char} {n : Nat}

/-- A reader gets to the end of the text and no further. -/
def Stalls (read : Read (α × Bytes)) : Prop :=
  read = .error .truncated ∨ ∃ a, read = .ok (a, [])

/-- A reader stalls wherever a text is cut off. -/
def Cut (read : Bytes → Read (α × Bytes)) (text : Bytes) : Prop :=
  ∀ {part more : Bytes}, text = part ++ more → more ≠ [] → Stalls (read part)

theorem Stalls.bind {read : Read (α × Bytes)} {next : α × Bytes → Read β} (stalls : Stalls read)
    (nothing : ∀ a, next (a, []) = .error .truncated) : (read >>= next) = .error .truncated := by
  rcases stalls with rfl | ⟨a, rfl⟩
  · rfl
  · exact nothing a

theorem Stalls.map {read : Read (α × Bytes)} {f : α → β} (stalls : Stalls read) :
    Stalls (read >>= fun (a, rest) => .ok (f a, rest)) := by
  rcases stalls with rfl | ⟨a, rfl⟩
  · exact .inl rfl
  · exact .inr ⟨f a, rfl⟩

/-- A text of two parts is cut off in the second or in the first. -/
theorem cut_append (whole : text ++ rest = part ++ more) :
    (∃ after, part = text ++ after ∧ rest = after ++ more) ∨ ∃ left, left ≠ [] ∧ text = part ++ left := by
  rcases List.append_eq_append_iff.mp whole with ⟨after, inSecond, isRest⟩ | ⟨left, inFirst, -⟩
  · exact .inl ⟨after, inSecond, isRest⟩
  · cases left with
    | nil =>
        rw [List.append_nil] at inFirst
        subst inFirst
        exact .inl ⟨[], (List.append_nil _).symm, List.append_cancel_left whole⟩
    | cons b left => exact .inr ⟨b :: left, List.cons_ne_nil _ _, inFirst⟩

theorem Ends.of_append (ends : Ends (part ++ more)) : Ends part := by
  cases part with
  | nil => nofun
  | cons b part => exact ends

/-! ### Words, strings and numbers -/

theorem expectWord_cut {word : Bytes} (whole : word = part ++ more) (cut : more ≠ []) :
    expectWord word part = .error .truncated := by
  subst whole
  induction part with
  | nil =>
      obtain ⟨b, more, rfl⟩ := List.exists_cons_of_ne_nil cut
      rfl
  | cons b part ih => exact (if_pos rfl).trans ih

/-- Where a string is cut off, its closing quote is missing. -/
theorem decodeText_cut {place : Place} {bytes : Bytes} (cut : more ≠ [])
    (decodes : decodeText decoded place (part ++ more) = .ok (bytes, [])) :
    decodeText decoded place part = .error .truncated := by
  induction part generalizing decoded place with
  | nil => rfl
  | cons b part ih =>
      rw [List.cons_append, decodeText] at decodes
      rw [decodeText]
      split at decodes
      case isTrue =>
        simp only [Except.ok.injEq, Prod.mk.injEq, List.append_eq_nil_iff] at decodes
        exact absurd decodes.2.2 cut
      case isFalse notEnd =>
        rw [if_neg notEnd]
        cases steps : place.step b with
        | error e =>
            rw [steps] at decodes
            cases decodes
        | ok taken =>
            rw [steps] at decodes
            exact ih decodes

theorem readText_cut (spelled : Spelled body cs) (whole : body ++ [quoteMark] = part ++ more)
    (cut : more ≠ []) : readText part = .error .truncated := by
  have decodes : decodeText [] .plain (body ++ [quoteMark]) = .ok (cs.flatMap String.utf8EncodeChar, []) :=
    decodeText_spelled spelled
  rw [whole] at decodes
  rw [readText, decodeText_cut cut decodes]
  rfl

theorem Whole.of_append (whole : Whole (b :: part ++ more)) : Whole (b :: part) := by
  generalize same : b :: part ++ more = text at whole
  cases whole with
  | zero =>
      obtain ⟨rfl, nothing⟩ := List.cons.inj same
      obtain ⟨rfl, -⟩ := List.append_eq_nil_iff.mp nothing
      exact .zero
  | digits digit notZero others =>
      obtain ⟨rfl, rfl⟩ := List.cons.inj same
      exact .digits digit notZero fun d mem => others d (List.mem_append_left more mem)

theorem decimalValue_append (digits more : Bytes) : decimalValue digits ≤ decimalValue (digits ++ more) := by
  rw [decimalValue, decimalValue, List.foldl_append]
  exact le_decimalValue _ more

/-- A number that is cut off is a smaller number. -/
theorem readNatural_cut {bound : Nat} (whole : Whole text) (below : decimalValue text < bound)
    (fits : bound ≤ UInt64.size) : Cut (readNatural bound) text := by
  intro part more same cut
  subst same
  cases part with
  | nil => exact .inl rfl
  | cons b part =>
      have less := decimalValue_append (b :: part) more
      have smaller : decimalValue (b :: part) < bound := by omega
      have read : readNatural bound (b :: part ++ []) = .ok (⟨decimalValue (b :: part), smaller⟩, []) :=
        readNatural_whole (List.forall_mem_nil _) whole.of_append smaller fits nofun
      rw [List.append_nil] at read
      exact .inr ⟨_, read⟩

/-- A reader that reads a string if it finds a quote stalls wherever the string is cut off. -/
theorem cut_quoted {read : Bytes → Read (α × Bytes)} (spelled : Spelled body cs)
    (nothing : read [] = .error .truncated)
    (reads : ∀ rest, readText rest = .error .truncated → read (quoteMark :: rest) = .error .truncated) :
    Cut read (quoted body) := by
  intro part more whole cut
  cases part with
  | nil => exact .inl nothing
  | cons b part =>
      obtain ⟨rfl, inside⟩ := List.cons.inj whole
      exact .inl (reads part (readText_cut spelled inside cut))

/-! ### Arrays -/

section Items

variable {read : Bytes → Read (α × Bytes)} {write : α → Bytes} {spells : α → Bytes → Prop} {values : List α}
  {rounds : Bytes} {isFirst : Bool}

theorem readItems_nothing : readItems read rounds isFirst [] = .error .truncated := by
  cases rounds <;> rfl

/-- An item is found from its first byte on, whether it is the first or comes after a comma. -/
theorem nextItem_found {input : Bytes} (starts : ∀ b ∈ input.head?, isBlank b = false ∧ b ≠ closeBracket)
    (notNothing : input ≠ []) :
    nextItem true input = .ok (some input) ∧ nextItem false (comma :: input) = .ok (some input) := by
  obtain ⟨b, input, rfl⟩ := List.exists_cons_of_ne_nil notNothing
  obtain ⟨notBlank, notEnd⟩ := starts b rfl
  have found : skipBlanks (b :: input) = b :: input := skipBlanks_of_not_blank notBlank
  have separated : skipBlanks (comma :: b :: input) = comma :: b :: input := skipBlanks_of_not_blank rfl
  constructor
  · rw [nextItem, found]
    exact if_neg notEnd
  · simp only [nextItem, separated, found, if_neg notEnd]
    rfl

/-- The first byte of a value is no blank, and it does not end an array. -/
theorem Value.starts_part (value : Value text) (whole : text ++ rest = part ++ more) :
    ∀ b ∈ part.head?, isBlank b = Bool.false ∧ b ≠ closeBracket := by
  obtain ⟨b, others, rfl, notBlank, notEnd⟩ := value.starts
  cases part with
  | nil => nofun
  | cons c part =>
      obtain ⟨rfl, -⟩ := List.cons.inj whole
      rintro _ ⟨⟩
      exact ⟨notBlank, notEnd⟩

/-- Wherever the items after the first are cut off, the array ends too early. -/
theorem readItems_cut (reads : Reads read spells) (isValue : ∀ {value text}, spells value text → Value text)
    (spelled : ∀ value, spells value (write value)) (cuts : ∀ value, Cut read (write value))
    (whole : (values.map write).flatMap (comma :: ·) ++ [closeBracket] = part ++ more) (cut : more ≠ []) :
    readItems read rounds false part = .error .truncated := by
  induction values generalizing part rounds with
  | nil =>
      cases part with
      | nil => exact readItems_nothing
      | cons b part => simp_all
  | cons value values ih =>
      cases rounds with
      | nil => rfl
      | cons b rounds =>
      cases part with
      | nil => exact readItems_nothing
      | cons c part =>
      rw [List.map_cons, List.flatMap_cons, List.append_assoc, List.cons_append] at whole
      obtain ⟨rfl, inside⟩ := List.cons.inj whole
      have ends : Ends ((values.map write).flatMap (comma :: ·) ++ [closeBracket]) := .parts (.inl rfl)
      rcases cut_append inside with ⟨after, rfl, others⟩ | ⟨left, within, isCut⟩
      · have next : nextItem false (comma :: (write value ++ after)) = .ok (some (write value ++ after)) :=
          nextItem_next (List.forall_mem_nil _) (List.forall_mem_nil _) (isValue (spelled value))
        have read := reads.read (spelled value) (Ends.of_append (others ▸ ends))
        rw [readItems, next]
        simp only [bind, Except.bind, read, ih others]
      · by_cases nothing : part = []
        · subst nothing
          rfl
        · have starts := (isValue (spelled value)).starts_part ((List.append_nil _).trans isCut)
          rw [readItems, (nextItem_found starts nothing).2]
          exact (cuts value isCut within).bind fun item => by simp only [readItems_nothing]; rfl

/-- An array that is cut off ends too early. -/
theorem readItems_array_cut (reads : Reads read spells)
    (isValue : ∀ {value text}, spells value text → Value text) (spelled : ∀ value, spells value (write value))
    (cuts : ∀ value, Cut read (write value)) (whole : commas (values.map write) ++ [closeBracket] = part ++ more) (cut : more ≠ []) :
    readItems read rounds true part = .error .truncated := by
  cases values with
  | nil =>
      cases part with
      | nil => exact readItems_nothing
      | cons b part => simp_all [commas]
  | cons value values =>
      rw [List.map_cons, commas_cons, List.append_assoc] at whole
      have starts := (isValue (spelled value)).starts_part whole
      by_cases nothing : part = []
      · subst nothing
        exact readItems_nothing
      · cases rounds with
        | nil => rfl
        | cons b rounds =>
            obtain ⟨first, next⟩ := nextItem_found starts nothing
            -- The first item is found like one after a comma.
            have further : readItems read (b :: rounds) false (comma :: part) = .error .truncated := by
              refine @readItems_cut _ _ _ _ _ _ (value :: values) _ reads isValue spelled cuts ?_ cut
              rw [List.map_cons, List.flatMap_cons, List.append_assoc, List.cons_append, whole]
              rfl
            rw [readItems, next] at further
            rw [readItems, first]
            exact further

end Items

/-! ### Objects -/

/-- The member that an entry gives can be read, and its reader stalls wherever the value is cut off. -/
def Members.Cuts : Members → Entry → Prop
  | .nil, _ => False
  | .cons name shape rest, entry => if entry.name = name then Cut shape.read entry.text else rest.Cuts entry

/-- No blanks are in an entry. -/
structure Entry.Tight (entry : Entry) : Prop where
  lead : entry.field.lead = []
  gap : entry.field.gap = []
  value_lead : entry.field.value.lead = []
  value_trail : entry.field.value.trail = []

theorem Entry.Tight.spelling {entry : Entry} (tight : entry.Tight) :
    entry.field.spelling = quoted entry.field.key ++ colon :: entry.text := by
  rw [Field.spelling, Item.spelling, tight.lead, tight.gap, tight.value_lead, tight.value_trail]
  simp [Entry.text]

theorem Members.readMember_cut (members : Members) {draft : members.Draft} {values : members.Value}
    {entry : Entry} {entries : List Entry} (awaits : members.Awaits draft values (entry :: entries))
    (cuts : members.Cuts entry) : Cut (members.readMember entry.name draft) (colon :: entry.text) := by
  cases members with
  | nil => cases cuts
  | cons name shape members =>
      obtain ⟨found, others⟩ := draft
      obtain ⟨once, -, awaits⟩ := awaits
      rw [Cuts] at cuts
      intro part more whole cut
      by_cases same : entry.name = name
      · rw [if_pos same] at cuts
        have missing : found = none := by
          cases found with
          | none => rfl
          | some value => simp [same] at once
        subst missing
        rw [readMember, if_pos same, if_neg (by simp)]
        cases part with
        | nil => exact .inl rfl
        | cons b part =>
            obtain ⟨rfl, inside⟩ := List.cons.inj whole
            have separated : expectByte colon (colon :: part) = .ok part :=
              expectByte_found (List.forall_mem_nil _) rfl
            rw [separated]
            exact Stalls.map (f := fun value => (some value, others)) (cuts inside cut)
      · rw [if_neg same] at cuts
        rw [List.filter_cons_of_pos (by simpa using same)] at awaits
        rw [readMember, if_neg same]
        exact (members.readMember_cut awaits cuts whole cut).map

section Entries

variable {members : Members} {draft : members.Draft} {values : members.Value} {entries : List Entry}
  {rounds : Bytes} {isFirst : Bool}

/-- The texts of some entries. -/
abbrev spellings (entries : List Entry) : List Bytes :=
  (entries.map Entry.field).map Field.spelling

theorem readMembers_nothing : readMembers members.readMember rounds isFirst draft [] = .error .truncated := by
  cases rounds <;> rfl

/-- Wherever the members after the first are cut off, the object ends too early. -/
theorem readMembers_cut (reads : members.Reads) (awaits : members.Awaits draft values entries)
    (tight : ∀ entry ∈ entries, entry.Tight) (cuts : ∀ entry ∈ entries, members.Cuts entry)
    (whole : (spellings entries).flatMap (comma :: ·) ++ [closeBrace] = part ++ more) (cut : more ≠ []) :
    readMembers members.readMember rounds false draft part = .error .truncated := by
  induction entries generalizing part rounds draft with
  | nil =>
      cases part with
      | nil => exact readMembers_nothing
      | cons b part => simp_all
  | cons entry entries ih =>
      obtain ⟨isTight, tight⟩ := List.forall_mem_cons.mp tight
      obtain ⟨isCut, cuts⟩ := List.forall_mem_cons.mp cuts
      cases rounds with
      | nil => rfl
      | cons b rounds =>
      cases part with
      | nil => exact readMembers_nothing
      | cons c part =>
      rw [spellings, List.map_cons, List.map_cons, List.flatMap_cons, isTight.spelling, List.append_assoc,
        List.cons_append, List.append_assoc] at whole
      obtain ⟨rfl, inside⟩ := List.cons.inj whole
      rw [readMembers]
      rcases cut_append inside with ⟨after, rfl, afterKey⟩ | ⟨left, within, isKey⟩
      · have key : nextKey false (comma :: (quoted entry.field.key ++ after)) =
            readKey (entry.field.key ++ quoteMark :: after) :=
          nextKey_next (List.forall_mem_nil _) (List.forall_mem_nil _)
        have next := key.trans (readKey_spelled entry)
        rw [next]
        rcases cut_append afterKey with ⟨rest, rfl, others⟩ | ⟨left, within, isValue⟩
        · have ends : Ends ((spellings entries).flatMap (comma :: ·) ++ [closeBrace]) := .parts (.inr rfl)
          obtain ⟨next, awaits, read⟩ :=
            members.readMember_awaited reads awaits (Ends.of_append (others ▸ ends))
          rw [isTight.gap, isTight.value_lead, List.nil_append, List.nil_append] at read
          simp only [bind, Except.bind, List.cons_append, read]
          exact ih awaits tight cuts others
        · exact (members.readMember_cut awaits isCut isValue within).bind fun next => by
            simp only [readMembers_nothing]
      · cases part with
        | nil => rfl
        | cons d part =>
            obtain ⟨rfl, inKey⟩ := List.cons.inj isKey
            have stops : readText part = .error .truncated := readText_cut entry.spelled inKey within
            have next : nextKey false (comma :: quoteMark :: part) = readKey part := rfl
            rw [next, readKey, stops]
            rfl

/-- An object that is cut off ends too early. -/
theorem readMembers_object_cut (reads : members.Reads) (awaits : members.Awaits draft values entries)
    (tight : ∀ entry ∈ entries, entry.Tight) (cuts : ∀ entry ∈ entries, members.Cuts entry)
    (whole : commas (spellings entries) ++ [closeBrace] = part ++ more) (cut : more ≠ []) :
    readMembers members.readMember rounds true draft part = .error .truncated := by
  cases part with
  | nil => exact readMembers_nothing
  | cons b part =>
      cases entries with
      | nil => simp_all [commas]
      | cons entry entries =>
          have spelling := (tight entry (.head _)).spelling
          simp only [spellings, List.map_cons, commas_cons, List.append_assoc] at whole
          obtain ⟨rfl, -⟩ : quoteMark = b ∧ _ := by
            rw [spelling, quoted] at whole
            exact List.cons.inj whole
          cases rounds with
          | nil => rfl
          | cons c rounds =>
              -- The first key is found like one after a comma.
              have further : readMembers members.readMember (c :: rounds) false draft
                  (comma :: quoteMark :: part) = .error .truncated := by
                refine readMembers_cut reads awaits tight cuts ?_ cut
                rw [spellings, List.map_cons, List.map_cons, List.flatMap_cons, List.append_assoc,
                  List.cons_append, whole]
                rfl
              exact further

end Entries

/-! ### All shapes -/

theorem Members.entries_tight (members : Members) (values : members.Value) :
    ∀ entry ∈ members.entries values, entry.Tight := by
  cases members with
  | nil => nofun
  | cons name shape rest =>
      have others := rest.entries_tight values.2
      rw [entries]
      split
      · exact others
      · exact List.forall_mem_cons.mpr ⟨⟨rfl, rfl, rfl, rfl⟩, others⟩

theorem record_cut {members : Members} (legible : members.isLegible = true) {values : members.Value}
    (cuts : ∀ entry ∈ members.entries values, members.Cuts entry)
    (whole : utf8 ((Shape.record members).write values) = part ++ more) (cut : more ≠ []) :
    (Shape.record members).read part = .error .truncated := by
  rw [Shape.write, utf8_enclosed, members.utf8_write] at whole
  cases part with
  | nil => rfl
  | cons b part =>
      obtain ⟨rfl, inside⟩ : openBrace = b ∧ _ := List.cons.inj whole
      have reads := @readMembers_object_cut _ _ members members.blank values _ (openBrace :: part)
        (members.reads legible) (members.awaits_blank (members.write_among legible values))
        (members.entries_tight values) cuts inside cut
      have opens : skipBlanks (openBrace :: part) = openBrace :: part := skipBlanks_of_not_blank rfl
      rw [Shape.read, opens]
      simp only [show openBrace ≠ openBracket by decide, if_true, if_false, reads]
      rfl

mutual

/-- Wherever what is written for a value is cut off, its reader stalls. -/
theorem Shape.cuts (shape : Shape) (legible : shape.isLegible = true) (value : shape.Value) :
    Cut shape.read (utf8 (shape.write value)) := by
  intro part more whole cut
  cases shape with
  | text =>
      rw [Shape.write, utf8_writeText] at whole
      exact cut_quoted (spelled_inner value) rfl (fun _ stops => stops) whole cut
  | natural bound =>
      have fits : bound ≤ UInt64.size := of_decide_eq_true legible
      obtain ⟨isWhole, same⟩ := whole_toDigits value.val
      exact readNatural_cut isWhole (same.symm ▸ value.isLt) fits whole cut
  | choice names =>
      rw [Shape.write, utf8_writeText] at whole
      refine cut_quoted (spelled_inner (names.get value)) rfl (fun rest stops => ?_) whole cut
      have read : readChoice names (quoteMark :: rest) = (readText rest >>= fun (name, rest) =>
        pick names name >>= fun choice => .ok (choice, rest)) := rfl
      rw [Shape.read, read, stops]
      rfl
  | option shape =>
      obtain ⟨notOption, legible⟩ : shape.isOption = false ∧ shape.isLegible = true := by
        simpa [Shape.isLegible] using legible
      cases part with
      | nil => exact .inl rfl
      | cons b part =>
      cases value with
      | none =>
          obtain ⟨rfl, inside⟩ : 0x6E = b ∧ [0x75, 0x6C, 0x6C] = part ++ more := List.cons.inj whole
          have read : (Shape.option shape).read (0x6E :: part) =
            (expectWord [0x75, 0x6C, 0x6C] part >>= fun rest => .ok (none, rest)) := by
            have found : skipBlanks (0x6E :: part) = 0x6E :: part := skipBlanks_of_not_blank rfl
            rw [Shape.read, found]
            rfl
          rw [read, expectWord_cut inside cut]
          exact .inl rfl
      | some value =>
          have spells := shape.write_spells legible value
          have stalls := shape.cuts legible value whole cut
          have same : utf8 (shape.write value) = b :: (part ++ more) := whole
          rw [same] at spells
          have notNull : b ≠ 0x6E := spells.not_null notOption
          obtain ⟨_, _, starts, notBlank, -⟩ := spells.isValue.starts
          cases starts
          have found : skipBlanks (b :: part) = b :: part := skipBlanks_of_not_blank notBlank
          rw [Shape.read, found]
          simp only [if_neg notNull]
          exact stalls.map
  | list item =>
      have legible : item.isLegible = true := legible
      rw [Shape.write, utf8_enclosed] at whole
      cases part with
      | nil => exact .inl rfl
      | cons b part =>
          obtain ⟨rfl, inside⟩ : openBracket = b ∧ _ := List.cons.inj whole
          rw [List.map_map] at inside
          have reads := @readItems_array_cut _ _ _ item.read (utf8 ∘ item.write)
            (fun value text => item.Spells value text) value (openBracket :: part) (item.reads legible)
            Shape.Spells.isValue (item.write_spells legible) (item.cuts legible) inside cut
          have opens : skipBlanks (openBracket :: part) = openBracket :: part := skipBlanks_of_not_blank rfl
          rw [Shape.read, opens]
          exact .inl reads
  | record members => exact .inl (record_cut legible (members.cuts legible value) whole cut)

theorem Members.cuts (members : Members) (legible : members.isLegible = true) (values : members.Value) :
    ∀ entry ∈ members.entries values, members.Cuts entry := by
  cases members with
  | nil => nofun
  | cons name shape rest =>
      obtain ⟨value, values⟩ := values
      simp only [Members.isLegible, Bool.and_eq_true, Bool.not_eq_true', List.contains_eq_mem,
        decide_eq_false_iff_not] at legible
      obtain ⟨⟨distinct, readable⟩, legible⟩ := legible
      have others : ∀ entry ∈ rest.entries values, (Members.cons name shape rest).Cuts entry := by
        intro entry mem
        have different : entry.name ≠ name := fun same => distinct (same ▸ rest.name_mem mem)
        rw [Members.Cuts, if_neg different]
        exact rest.cuts legible values entry mem
      rw [Members.entries]
      split
      case isTrue => exact others
      case isFalse =>
        refine List.forall_mem_cons.mpr ⟨?_, others⟩
        have named : (Entry.written name (shape.write value)).name = name := rfl
        rw [Members.Cuts, if_pos named]
        exact shape.cuts readable value

end

/-! ### Types with a JSON form -/

def Shape.isRecord : Shape → Bool
  | .record _ => true
  | _ => false

/-- The text of a record ends with its last byte and not before. -/
theorem Shape.parse_cut {shape : Shape} (isRecord : shape.isRecord = true) (legible : shape.isLegible = true)
    {value : shape.Value} (whole : utf8 (shape.write value) = part ++ more) (cut : more ≠ []) :
    shape.parse part = .error .truncated := by
  cases shape with
  | record members =>
      rw [parse, record_cut legible (members.cuts legible value) whole cut]
      rfl
  | _ => cases isRecord

theorem Object.skipped (object : Object text) : skipFrom .value [] (text ++ rest) = .ok rest := by
  obtain ⟨value, opens⟩ := object
  cases value with
  | object blank keys values => exact skipFrom_object blank keys fun field mem => (values field mem).skipped
  | number number =>
      obtain ⟨rfl | rfl, wholes, -, -⟩ := number
      · obtain ⟨d, others, rfl, digit⟩ := wholes.starts
        obtain rfl : d = openBrace := Option.some.inj opens
        cases digit
      · cases opens
  | _ => cases opens

/-- Where an object is cut off, what is left is no value of any kind. -/
theorem Object.cut_unread (object : Object (part ++ more)) (cut : more ≠ []) (shape : Shape)
    (value : shape.Value) : shape.parse part ≠ .ok value := by
  intro parses
  obtain ⟨lead, text, trail, before, -, spells, rfl⟩ := Shape.parse_ok parses
  obtain ⟨b, others, rfl, notBlank, -⟩ := spells.isValue.starts
  cases lead with
  | cons c lead =>
      obtain rfl : c = openBrace := Option.some.inj object.opens
      cases before openBrace (.head _)
  | nil =>
      obtain rfl : b = openBrace := Option.some.inj object.opens
      have inner : Object (openBrace :: others) := ⟨spells.isValue, rfl⟩
      have all : skipFrom .value [] ([] ++ (openBrace :: others ++ trail) ++ more ++ []) = .ok [] :=
        object.skipped
      rw [List.append_nil, List.nil_append, List.append_assoc, inner.skipped] at all
      simp only [Except.ok.injEq, List.append_eq_nil_iff] at all
      exact cut all.2

/-- A text ends too early for a type, and it is no value of any other kind either. -/
structure Broken (α : Type) [Wire α] (text : Bytes) : Prop where
  truncated : decode (α := α) text = .error .truncated
  unread : ∀ (shape : Shape) (value : shape.Value), shape.parse text ≠ .ok value

/-- The text of each value of a type is broken wherever it is cut off. -/
def Breaks (α : Type) [Wire α] : Prop :=
  ∀ (a : α) (part more : Bytes), Bytes.ofString (encode a) = part ++ more → more ≠ [] → Broken α part

section Encoded

variable {α : Type} [Wire α]

theorem breaks_of_record {members : Members} (isRecord : Wire.shape α = .record members)
    (legible : (Wire.shape α).isLegible = true) : Breaks α := by
  intro a part more whole cut
  constructor
  · rw [ofString_encode] at whole
    have isRecord : (Wire.shape α).isRecord = true := isRecord ▸ rfl
    rw [decode, Shape.parse_cut isRecord legible whole cut]
    rfl
  · have object := encode_object isRecord legible a
    rw [whole] at object
    exact object.cut_unread cut

end Encoded

end NetSwitch.Json
