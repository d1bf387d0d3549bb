import NetSwitch.Proofs.Json.Reader

/-! Writing: what is written for a value spells that value, and it is one line. -/

namespace NetSwitch.Json

variable {c : Char} {cs : List Char} {b decoded : UInt8} {rest : Bytes} {n : Nat}

abbrev utf8 (cs : List Char) : Bytes :=
  cs.flatMap String.utf8EncodeChar

/-! ### Strings -/

theorem spelled_letter {letter : Char} (bytes : utf8 ['\\', letter] = [backslash, b])
    (known : escaped? b = some decoded) (named : c.toNat = (Char.ofNat decoded.toNat).toNat)
    (spelled : Spelled rest cs) : Spelled (utf8 ['\\', letter] ++ rest) (c :: cs) := by
  obtain rfl := Char.toNat_inj.mp named
  rw [bytes]
  exact .escape known spelled

theorem utf8_hexDigit : ∀ n < 16, (String.utf8EncodeChar (Nat.digitChar n)).map hexDigit? = [some n] := by
  decide

theorem hexDigit_byte (small : n < 16) :
    ∃ b, String.utf8EncodeChar (Nat.digitChar n) = [b] ∧ hexDigit? b = some n :=
  List.map_eq_singleton_iff.mp (utf8_hexDigit n small)

theorem spelled_control (control : c.toNat < 0x20) (spelled : Spelled rest cs) :
    Spelled (utf8 ['\\', 'u', '0', '0', Nat.digitChar (c.toNat / 16), Nat.digitChar (c.toNat % 16)] ++ rest)
      (c :: cs) := by
  obtain ⟨high, highByte, highDigit⟩ := hexDigit_byte (show c.toNat / 16 < 16 by omega)
  obtain ⟨low, lowByte, lowDigit⟩ := hexDigit_byte (show c.toNat % 16 < 16 by omega)
  have zero : hexDigit? 0x30 = some 0 := rfl
  have value : ((0 * 16 + 0) * 16 + c.toNat / 16) * 16 + c.toNat % 16 = c.toNat := by omega
  have unit := Unit4.mk zero zero highDigit lowDigit
  rw [value] at unit
  have named := Spelled.unit unit (by simp [isLeading]; omega) (by simp [isTrailing]; omega) spelled
  rw [Char.ofNat_toNat] at named
  have bytes : utf8 ['\\', 'u', '0', '0', Nat.digitChar (c.toNat / 16), Nat.digitChar (c.toNat % 16)] =
      [backslash, 0x75, 0x30, 0x30, high, low] := by
    simp only [utf8, List.flatMap_cons, List.flatMap_nil, highByte, lowByte]
    rfl
  rw [bytes]
  exact named

theorem spelled_escapeChar (c : Char) (spelled : Spelled rest cs) :
    Spelled (utf8 (escapeChar c) ++ rest) (c :: cs) := by
  unfold escapeChar
  split
  case isTrue same => exact spelled_letter rfl rfl (congrArg Char.toNat same) spelled
  split
  case isTrue same => exact spelled_letter rfl rfl (congrArg Char.toNat same) spelled
  split
  case isTrue same => exact spelled_letter rfl rfl same spelled
  split
  case isTrue same => exact spelled_letter rfl rfl same spelled
  split
  case isTrue same => exact spelled_letter rfl rfl (congrArg Char.toNat same) spelled
  split
  case isTrue same => exact spelled_letter rfl rfl (congrArg Char.toNat same) spelled
  split
  case isTrue same => exact spelled_letter rfl rfl (congrArg Char.toNat same) spelled
  split
  case isTrue control => exact spelled_control control spelled
  case isFalse notQuote notEscape _ _ _ _ _ visible =>
    simpa using Spelled.plain notQuote notEscape (Nat.le_of_not_lt visible) spelled

/-- What is written between the quotes of a text. -/
def inner (text : String) : Bytes :=
  utf8 (text.toList.flatMap escapeChar)

theorem spelled_inner (text : String) : Spelled (inner text) text.toList := by
  unfold inner
  induction text.toList with
  | nil => exact .nil
  | cons c cs ih =>
      rw [List.flatMap_cons, utf8, List.flatMap_append]
      exact spelled_escapeChar c ih

theorem utf8_writeText (text : String) : utf8 (writeText text) = quoted (inner text) := by
  rw [writeText, utf8, List.flatMap_append, List.flatMap_cons]
  rfl

/-! ### Numbers -/

theorem utf8_decimalDigit :
    ∀ n < 10,
      (String.utf8EncodeChar (Nat.digitChar n)).map (fun b => (isDigit b, digitValue b)) = [(true, n)] := by
  decide

theorem decimalDigit_byte (small : n < 10) :
    ∃ b, String.utf8EncodeChar (Nat.digitChar n) = [b] ∧ isDigit b = true ∧ digitValue b = n := by
  obtain ⟨b, bytes, both⟩ := List.map_eq_singleton_iff.mp (utf8_decimalDigit n small)
  exact ⟨b, bytes, congrArg Prod.fst both, congrArg Prod.snd both⟩

theorem Whole.snoc (whole : Whole rest) (positive : decimalValue rest ≠ 0) (digit : isDigit b = true) :
    Whole (rest ++ [b]) := by
  cases whole with
  | zero => exact absurd rfl positive
  | digits first notZero others =>
      exact .digits first notZero (List.forall_mem_append.mpr ⟨others, by simpa using digit⟩)

theorem decimalValue_snoc (digits : Bytes) :
    decimalValue (digits ++ [b]) = decimalValue digits * 10 + digitValue b := by
  rw [decimalValue, List.foldl_append]
  rfl

theorem whole_toDigits (n : Nat) :
    Whole (utf8 (Nat.toDigits 10 n)) ∧ decimalValue (utf8 (Nat.toDigits 10 n)) = n := by
  induction n using Nat.strongRecOn with
  | ind n ih =>
      rw [Nat.toDigits_eq_if (by omega)]
      split
      case isTrue small =>
        obtain ⟨b, bytes, digit, value⟩ := decimalDigit_byte small
        rw [utf8, List.flatMap_singleton, bytes]
        refine ⟨?_, by simpa [decimalValue] using value⟩
        by_cases isZero : b = 0x30
        · exact isZero ▸ .zero
        · exact .digits digit isZero nofun
      case isFalse large =>
        obtain ⟨whole, value⟩ := ih (n / 10) (by omega)
        obtain ⟨b, bytes, digit, last⟩ := decimalDigit_byte (show n % 10 < 10 by omega)
        rw [utf8, List.flatMap_append, List.flatMap_singleton, bytes]
        refine ⟨whole.snoc (by omega) digit, ?_⟩
        rw [decimalValue_snoc, value, last]
        omega

/-! ### Members

Those of a record that are not absent, each once and in order. -/

/-- A text alone. -/
def Item.only (text : Bytes) : Item where
  text := text

/-- A member as it is written. -/
def Entry.written (name : String) (value : List Char) : Entry where
  name := name
  field := { key := inner name, value := .only (utf8 value) }
  spelled := spelled_inner name

def Members.entries : (members : Members) → members.Value → List Entry
  | .nil, () => []
  | .cons name shape rest, (value, values) =>
      if shape.isAbsent value then rest.entries values
      else .written name (shape.write value) :: rest.entries values

theorem Item.spelling_only (text : Bytes) : (Item.only text).spelling = text :=
  List.append_nil text

theorem Entry.spelling_written (name : String) (value : List Char) :
    (Entry.written name value).field.spelling = utf8 (writeText name ++ ':' :: value) := by
  rw [utf8, List.flatMap_append, ← utf8, utf8_writeText, List.flatMap_cons]
  simp [Field.spelling, Entry.written, Item.spelling_only]
  rfl

theorem utf8_separate (parts : List (List Char)) : utf8 (separate parts) = commas (parts.map utf8) := by
  cases parts with
  | nil => rfl
  | cons part parts =>
      rw [separate, intercalate_cons, utf8, List.flatMap_append, List.map_cons, commas_cons, List.flatMap_assoc,
        List.flatMap_map]
      rfl

theorem utf8_enclosed (first last : Char) (parts : List (List Char)) :
    utf8 (first :: separate parts ++ [last]) =
      String.utf8EncodeChar first ++ (commas (parts.map utf8) ++ String.utf8EncodeChar last) := by
  rw [utf8, List.flatMap_append, List.flatMap_cons, List.flatMap_singleton, ← utf8, utf8_separate,
    List.append_assoc]

theorem Members.utf8_write (members : Members) (values : members.Value) :
    (members.write values).map utf8 = ((members.entries values).map Entry.field).map Field.spelling := by
  cases members with
  | nil => rfl
  | cons name shape rest =>
      obtain ⟨value, values⟩ := values
      have others := rest.utf8_write values
      rw [write, entries]
      split
      · exact others
      · rw [List.map_cons, others, ← Entry.spelling_written]
        rfl

theorem Members.name_mem (members : Members) {values : members.Value} {entry : Entry}
    (mem : entry ∈ members.entries values) : entry.name ∈ members.names := by
  cases members with
  | nil => cases mem
  | cons name shape rest =>
      obtain ⟨value, values⟩ := values
      rw [entries] at mem
      split at mem
      · exact .tail _ (rest.name_mem mem)
      · rcases List.mem_cons.mp mem with rfl | mem
        · exact .head _
        · exact .tail _ (rest.name_mem mem)

theorem Aligned.of_map {related : α → β → Prop} {f : α → β} (each : ∀ a, related a (f a)) {as : List α} :
    Aligned related as (as.map f) := by
  induction as with
  | nil => exact .nil
  | cons a as ih => exact .cons (each a) ih

theorem Shape.absent?_of_isAbsent {shape : Shape} {value : shape.Value} (absent : shape.isAbsent value = true) :
    shape.absent? = some value := by
  cases shape with
  | option shape =>
      cases value with
      | none => rfl
      | some value => cases absent
  | _ => cases absent

/-! ### All shapes -/

mutual

/-- What is written for a value spells it. -/
theorem Shape.write_spells (shape : Shape) (legible : shape.isLegible = true) (value : shape.Value) :
    shape.Spells value (utf8 (shape.write value)) := by
  cases shape with
  | text => exact ⟨inner value, utf8_writeText value, spelled_inner value⟩
  | natural bound => exact whole_toDigits value.val
  | choice names =>
      exact ⟨inner (names.get value), spelled_inner _, .inl (utf8_writeText _)⟩
  | option shape =>
      have legible : shape.isLegible = true := by
        simp only [Shape.isLegible, Bool.and_eq_true] at legible
        exact legible.2
      cases value with
      | none => rfl
      | some value => exact shape.write_spells legible value
  | list item =>
      refine ⟨[], value.map fun part => .only (utf8 (item.write part)), List.forall_mem_nil _, ?_, ?_⟩
      · rw [Shape.write, utf8_enclosed, arrayText, List.nil_append, List.map_map, List.map_map]
        simp only [Function.comp_def, Item.spelling_only]
        rfl
      · refine .of_map fun part => ?_
        exact item.write_spells legible part
  | record members =>
      refine .inr ⟨[], members.entries value, List.forall_mem_nil _, ?_, members.write_among legible value⟩
      rw [Shape.write, utf8_enclosed, members.utf8_write, objectText, List.nil_append]
      rfl

theorem Members.write_among (members : Members) (legible : members.isLegible = true) (values : members.Value) :
    members.Among values (members.entries values) := by
  cases members with
  | nil => exact List.forall_mem_nil _
  | cons name shape rest =>
      obtain ⟨value, values⟩ := values
      simp only [Members.isLegible, Bool.and_eq_true, Bool.not_eq_true', List.contains_eq_mem,
        decide_eq_false_iff_not] at legible
      obtain ⟨⟨distinct, readable⟩, legible⟩ := legible
      have others : ∀ entry ∈ rest.entries values, entry.name ≠ name :=
        fun entry mem same => distinct (same ▸ rest.name_mem mem)
      have none : (rest.entries values).filter (·.name = name) = [] := by simpa using others
      have all : (rest.entries values).filter (·.name ≠ name) = rest.entries values := by simpa using others
      have among := rest.write_among legible values
      rw [Members.entries]
      split
      case isTrue absent =>
        refine ⟨?_, ?_⟩
        · rw [none]
          exact Shape.absent?_of_isAbsent absent
        · rw [all]
          exact among
      case isFalse =>
        refine ⟨?_, ?_⟩
        · rw [List.filter_cons_of_pos (by simp [Entry.written]), none]
          exact shape.write_spells readable value
        · rw [List.filter_cons_of_neg (by simp [Entry.written]), all]
          exact among

end

/-! ### Lines -/

/-- No control character is among some characters. -/
def Inline (cs : List Char) : Prop :=
  ∀ c ∈ cs, 0x20 ≤ c.toNat

theorem Inline.append {ds : List Char} (first : Inline cs) (second : Inline ds) : Inline (cs ++ ds) :=
  List.forall_mem_append.mpr ⟨first, second⟩

theorem Inline.cons (first : 0x20 ≤ c.toNat) (rest : Inline cs) : Inline (c :: cs) :=
  List.forall_mem_cons.mpr ⟨first, rest⟩

theorem inline_separate {parts : List (List Char)} (inline : ∀ part ∈ parts, Inline part) :
    Inline (separate parts) := by
  cases parts with
  | nil => nofun
  | cons part parts =>
      obtain ⟨first, others⟩ := List.forall_mem_cons.mp inline
      rw [separate, intercalate_cons]
      refine first.append fun c mem => ?_
      obtain ⟨next, mem, within⟩ := List.mem_flatMap.mp mem
      exact Inline.cons (by decide) (others next mem) c within

theorem digitChar_inline : ∀ n < 16, 0x20 ≤ (Nat.digitChar n).toNat := by
  decide

theorem escapeChar_inline (c : Char) : Inline (escapeChar c) := by
  unfold escapeChar
  iterate 7
    split
    case isTrue => simp [Inline]
  split
  case isTrue control =>
    have high := digitChar_inline (c.toNat / 16) (by omega)
    have low := digitChar_inline (c.toNat % 16) (by omega)
    simp [Inline, high, low]
  case isFalse visible => exact .cons (Nat.le_of_not_lt visible) nofun

theorem writeText_inline (text : String) : Inline (writeText text) := by
  rw [writeText]
  refine .append (.cons (by decide) fun c mem => ?_) (by simp [Inline])
  obtain ⟨d, -, within⟩ := List.mem_flatMap.mp mem
  exact escapeChar_inline d c within

theorem toDigits_inline (n : Nat) : Inline (Nat.toDigits 10 n) := by
  induction n using Nat.strongRecOn with
  | ind n ih =>
      rw [Nat.toDigits_eq_if (by omega)]
      split
      case isTrue small => exact .cons (digitChar_inline n (by omega)) nofun
      case isFalse => exact (ih (n / 10) (by omega)).append (.cons (digitChar_inline (n % 10) (by omega)) nofun)

mutual

theorem Shape.write_inline (shape : Shape) (value : shape.Value) : Inline (shape.write value) := by
  cases shape with
  | text => exact writeText_inline value
  | natural bound => exact toDigits_inline value.val
  | choice names => exact writeText_inline (names.get value)
  | option shape =>
      cases value with
      | none => simp [Inline, Shape.write]
      | some value => exact shape.write_inline value
  | list item =>
      refine .append (.cons (by decide) (inline_separate fun part mem => ?_)) (by simp [Inline])
      obtain ⟨value, -, rfl⟩ := List.mem_map.mp mem
      exact item.write_inline value
  | record members =>
      exact .append (.cons (by decide) (inline_separate (members.write_inline value))) (by simp [Inline])

theorem Members.write_inline (members : Members) (values : members.Value) :
    ∀ part ∈ members.write values, Inline part := by
  cases members with
  | nil => nofun
  | cons name shape rest =>
      obtain ⟨value, values⟩ := values
      have others := rest.write_inline values
      rw [Members.write]
      split
      · exact others
      · exact List.forall_mem_cons.mpr
          ⟨.append (writeText_inline name) (.cons (by decide) (shape.write_inline value)), others⟩

end

/-! ### Types with a JSON form -/

theorem utf8_visible (visible : 0x20 ≤ c.toNat) : ∀ b ∈ String.utf8EncodeChar c, ¬ b < 0x20 := by
  by_cases isQuote : c = '"'
  · subst isQuote
    exact List.forall_mem_singleton.mpr (show ¬ quoteMark < 0x20 by decide)
  by_cases isEscape : c = '\\'
  · subst isEscape
    exact List.forall_mem_singleton.mpr (show ¬ backslash < 0x20 by decide)
  exact fun b mem => (plain_utf8 isQuote isEscape visible b mem).visible

section Encoded

variable {α : Type} [Wire α]

theorem ofString_encode (a : α) :
    Bytes.ofString (encode a) = utf8 ((Wire.shape α).write (Wire.toValue a)) :=
  Bytes.ofString_ofList _

/-- What is written is read again, with blanks after it or without. -/
theorem decode_encode {trail : Bytes} (legible : (Wire.shape α).isLegible = true) (a : α)
    (after : Blank trail) : decode (Bytes.ofString (encode a) ++ trail) = .ok a := by
  rw [ofString_encode]
  exact decode_spelled legible ((Wire.shape α).write_spells legible (Wire.toValue a))
    (List.forall_mem_nil _) after

theorem encode_object {members : Members} (isRecord : Wire.shape α = .record members)
    (legible : (Wire.shape α).isLegible = true) (a : α) : Object (Bytes.ofString (encode a)) where
  value := ofString_encode a ▸ ((Wire.shape α).write_spells legible (Wire.toValue a)).isValue
  opens := by
    rw [ofString_encode]
    generalize Wire.toValue a = value
    revert value
    rw [isRecord]
    exact fun _ => rfl

theorem encode_inline (a : α) : ∀ b ∈ Bytes.ofString (encode a), ¬ b < 0x20 := by
  rw [ofString_encode]
  intro b mem
  obtain ⟨c, written, within⟩ := List.mem_flatMap.mp mem
  exact utf8_visible ((Wire.shape α).write_inline (Wire.toValue a) c written) b within

end Encoded

end NetSwitch.Json
