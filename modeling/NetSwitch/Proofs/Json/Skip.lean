import NetSwitch.Proofs.Json.Grammar

/-! Skipping a value: whatever the value is, the bytes after it are found. -/

namespace NetSwitch.Json

variable {b : UInt8} {bytes body blanks text rest : Bytes} {stack outer : List Bracket}
  {bracket : Bracket} {site : Site}

/-- Goes on after a value. -/
def resume : List Bracket → Bytes → Read Bytes
  | [], rest => .ok rest
  | bracket :: stack, rest => skipFrom .after (bracket :: stack) rest

theorem skipFrom_go {next : Site} {brackets : List Bracket} (moves : site.move stack b = .go next brackets) :
    skipFrom site stack (b :: rest) = skipFrom next brackets rest := by
  rw [skipFrom, moves]

theorem skipFrom_complete (moves : site.move stack b = complete outer) :
    skipFrom site stack (b :: rest) = resume outer rest := by
  rw [skipFrom, moves]
  cases outer <;> rfl

/-- Bytes that leave a reader where it stands. -/
theorem skipFrom_stays (stays : ∀ b ∈ bytes, site.move stack b = .go site stack) :
    skipFrom site stack (bytes ++ rest) = skipFrom site stack rest := by
  induction bytes with
  | nil => rfl
  | cons b bytes ih =>
      obtain ⟨first, others⟩ := List.forall_mem_cons.mp stays
      rw [List.cons_append, skipFrom_go first, ih others]

/-! ### Strings -/

theorem skipFrom_unit {digits : Bytes} {value : Nat} {isKey : Bool} (unit : Unit4 digits value) :
    skipFrom (.digits isKey 4 true) stack (digits ++ rest) = skipFrom (.text isKey) stack rest := by
  obtain ⟨first, second, third, fourth⟩ := unit
  simp [skipFrom, Site.move, first, second, third, fourth]

theorem skipFrom_body {isKey : Bool} (spelled : Body body) :
    skipFrom (.text isKey) stack (body ++ quoteMark :: rest) =
      if isKey then skipFrom .colon stack rest else resume stack rest := by
  have escapes : (Site.text isKey).move stack backslash = .go (.escape isKey) stack := rfl
  have numbers : (Site.escape isKey).move stack 0x75 = .go (.digits isKey 4 true) stack := rfl
  induction spelled with
  | nil =>
      cases isKey
      · exact skipFrom_complete rfl
      · exact skipFrom_go rfl
  | plain notQuote notEscape visible _ ih =>
      rw [List.cons_append, skipFrom_go, ih]
      rw [Site.move, if_neg notQuote, if_neg notEscape, if_neg visible]
  | @escape letter _ known _ ih =>
      have named : (Site.escape isKey).move stack letter = .go (.text isKey) stack := by
        have notUnit : letter ≠ 0x75 := by
          rintro rfl
          cases known
        rw [Site.move, if_neg notUnit, if_pos known]
      rw [List.cons_append, List.cons_append, skipFrom_go escapes, skipFrom_go named, ih]
  | unit digit _ ih =>
      rw [List.cons_append, List.cons_append, skipFrom_go escapes,
        skipFrom_go numbers, List.append_assoc, skipFrom_unit digit, ih]

theorem skipFrom_string (spelled : Body body) :
    skipFrom .value stack (quoted body ++ rest) = resume stack rest := by
  have opens : Site.value.move stack quoteMark = .go (.text false) stack := rfl
  rw [quoted, List.cons_append, skipFrom_go opens, List.append_assoc]
  exact skipFrom_body spelled

/-! ### Words and numbers -/

theorem skipFrom_word {word : Bytes} {last : UInt8} :
    skipFrom (.word (word ++ [last])) stack (word ++ last :: rest) = resume stack rest := by
  induction word with
  | nil => exact skipFrom_complete (if_pos rfl)
  | cons b word ih =>
      have moves : (Site.word (b :: word ++ [last])).move stack b = .go (.word (word ++ [last])) stack := by
        cases word <;> exact if_pos rfl
      exact (skipFrom_go moves).trans ih

theorem startValue_digit (digit : isDigit b = true) (notZero : b ≠ 0x30) :
    startValue stack b = .go .whole stack := by
  have other {c : UInt8} (noDigit : isDigit c = false) : b ≠ c := ne_of_digit digit noDigit
  rw [startValue, isBlank_of_digit digit, if_neg Bool.false_ne_true, if_neg (other rfl),
    if_neg (other rfl), if_neg (other rfl), if_neg (other rfl), if_neg notZero, if_pos digit]

/-- A number ends where no byte goes on with it. -/
theorem skipFrom_ended (ends : Ends rest)
    (site_ends : site = .zero ∨ site = .whole ∨ site = .fraction ∨ site = .exponent) :
    skipFrom site stack rest = resume stack rest := by
  cases rest with
  | nil => rcases site_ends with rfl | rfl | rfl | rfl <;> cases stack <;> rfl
  | cons b rest =>
      obtain ⟨notDigit, notPoint, notMark⟩ := ends b rfl
      have moves : site.move stack b = afterValue stack b := by
        rcases site_ends with rfl | rfl | rfl | rfl <;>
          simp [Site.move, afterWhole, notDigit, notPoint, notMark]
      cases stack with
      | nil => rw [skipFrom, moves]; rfl
      | cons bracket stack => rw [skipFrom, moves, resume, skipFrom]; rfl

theorem skipFrom_digits {digits : Bytes} (digit : ∀ d ∈ digits, isDigit d = true)
    (site_loops : site = .whole ∨ site = .fraction ∨ site = .exponent) :
    skipFrom site stack (digits ++ rest) = skipFrom site stack rest := by
  refine skipFrom_stays fun d mem => ?_
  rcases site_loops with rfl | rfl | rfl <;> simp [Site.move, digit d mem]

/-- Digits that must be there. -/
theorem skipFrom_someDigits {digits : Bytes} (next : Site) (digit : Digits digits)
    (starts : ∀ d, isDigit d = true → site.move stack d = .go next stack)
    (next_loops : next = .whole ∨ next = .fraction ∨ next = .exponent) :
    skipFrom site stack (digits ++ rest) = skipFrom next stack rest := by
  obtain ⟨some, digit⟩ := digit
  obtain ⟨d, others, rfl⟩ := List.exists_cons_of_ne_nil some
  obtain ⟨first, digit⟩ := List.forall_mem_cons.mp digit
  rw [List.cons_append, skipFrom_go (starts d first), skipFrom_digits digit next_loops]

theorem skipFrom_exponent {exponent : Bytes} (exponents : Exponent exponent) (ends : Ends rest)
    (site_ends : site = .zero ∨ site = .whole ∨ site = .fraction) :
    skipFrom site stack (exponent ++ rest) = resume stack rest := by
  cases exponents with
  | none => exact skipFrom_ended ends (by grind)
  | @digits mark sign digits marks signs digit =>
      have noDigit : isDigit mark = false := by
        rcases (by simpa [isExponentMark] using marks : mark = 0x65 ∨ mark = 0x45) with rfl | rfl <;> rfl
      have marked : site.move stack mark = .go .exponentMark stack := by
        have notPoint : mark ≠ Json.point := by rintro rfl; cases marks
        rcases site_ends with rfl | rfl | rfl <;> simp [Site.move, afterWhole, noDigit, notPoint, marks]
      rw [List.cons_append, skipFrom_go marked, List.append_assoc]
      have ended : skipFrom .exponent stack rest = resume stack rest := skipFrom_ended ends (by simp)
      have signed (sign : UInt8) (signs : sign = plus ∨ sign = minus) :
          skipFrom .exponentMark stack (sign :: (digits ++ rest)) = resume stack rest := by
        have moves : Site.exponentMark.move stack sign = .go .exponentSign stack := by
          rcases signs with rfl | rfl <;> rfl
        rw [skipFrom_go moves, skipFrom_someDigits .exponent digit _ (by simp), ended]
        exact fun d digit => if_pos digit
      rcases signs with rfl | rfl | rfl
      · rw [List.nil_append, skipFrom_someDigits .exponent digit _ (by simp), ended]
        exact fun d digit => if_pos digit
      · exact signed plus (.inl rfl)
      · exact signed minus (.inr rfl)

theorem skipFrom_fraction {fraction exponent : Bytes} (fractions : Fraction fraction)
    (exponents : Exponent exponent) (ends : Ends rest) (site_ends : site = .zero ∨ site = .whole) :
    skipFrom site stack (fraction ++ (exponent ++ rest)) = resume stack rest := by
  cases fractions with
  | none => exact skipFrom_exponent exponents ends (by grind)
  | digits digit =>
      have pointed : site.move stack Json.point = .go .point stack := by
        rcases site_ends with rfl | rfl <;> rfl
      rw [List.cons_append, skipFrom_go pointed,
        skipFrom_someDigits .fraction digit _ (by simp),
        skipFrom_exponent exponents ends (by simp)]
      exact fun d digit => if_pos digit

theorem skipFrom_number {number : Bytes} (isNumber : Number number) (ends : Ends rest) :
    skipFrom .value stack (number ++ rest) = resume stack rest := by
  obtain @⟨sign, whole, fraction, exponent, signs, wholes, fractions, exponents⟩ := isNumber
  simp only [List.append_assoc]
  have wholeSkipped {site : Site} (sites : site = .value ∨ site = .sign) :
      skipFrom site stack (whole ++ (fraction ++ (exponent ++ rest))) = resume stack rest := by
    cases wholes with
    | zero =>
        have moves : site.move stack 0x30 = .go .zero stack := by rcases sites with rfl | rfl <;> rfl
        rw [List.cons_append, skipFrom_go moves, List.nil_append,
          skipFrom_fraction fractions exponents ends (by simp)]
    | @digits d digits digit notZero others =>
        have moves : site.move stack d = .go .whole stack := by
          rcases sites with rfl | rfl
          · exact startValue_digit digit notZero
          · exact (if_neg notZero).trans (if_pos digit)
        rw [List.cons_append, skipFrom_go moves, skipFrom_digits others (by simp),
          skipFrom_fraction fractions exponents ends (by simp)]
  rcases signs with rfl | rfl
  · exact wholeSkipped (by simp)
  · have signed : Site.value.move stack minus = .go .sign stack := rfl
    rw [List.cons_append, skipFrom_go signed]
    exact wholeSkipped (by simp)

/-! ### Arrays and objects -/

theorem skipFrom_blanks (blank : Blank blanks)
    (site_waits : site = .value ∨ site = .firstItem ∨ site = .firstKey ∨ site = .key ∨ site = .colon) :
    skipFrom site stack (blanks ++ rest) = skipFrom site stack rest := by
  refine skipFrom_stays fun b mem => ?_
  rcases site_waits with rfl | rfl | rfl | rfl | rfl <;> exact if_pos (blank b mem)

theorem skipFrom_after_blanks (blank : Blank blanks) :
    skipFrom .after (bracket :: stack) (blanks ++ rest) = skipFrom .after (bracket :: stack) rest := by
  refine skipFrom_stays fun b mem => ?_
  cases bracket <;> exact if_pos (blank b mem)

/-- The first item of an array is read like any other: it is no end of the array. -/
theorem skipFrom_firstItem {item : Item} (value : Value item.text) :
    skipFrom .firstItem stack (item.spelling ++ rest) = skipFrom .value stack (item.spelling ++ rest) := by
  obtain ⟨b, others, text, notBlank, notEnd⟩ := value.starts
  have moves : Site.firstItem.move stack b = Site.value.move stack b := by
    simp [Site.move, notBlank, notEnd]
  simp only [Item.spelling, List.append_assoc]
  rw [skipFrom_blanks item.lead_blank (by simp), skipFrom_blanks item.lead_blank (by simp), text,
    List.cons_append, skipFrom, moves, skipFrom]

/-- A value can be skipped, whatever is around it. -/
def Skipped (text : Bytes) : Prop :=
  ∀ stack rest, Ends rest → skipFrom .value stack (text ++ rest) = resume stack rest

theorem skipFrom_item {item : Item} (skipped : Skipped item.text) (ends : Ends rest) :
    skipFrom .value (bracket :: stack) (item.spelling ++ rest) =
      skipFrom .after (bracket :: stack) rest := by
  simp only [Item.spelling, List.append_assoc]
  rw [skipFrom_blanks item.lead_blank (by simp), skipped _ _ (ends.blanks item.trail_blank), resume,
    skipFrom_after_blanks item.trail_blank]

/-- The items after the first. -/
theorem skipFrom_items {items : List Item} (skipped : ∀ item ∈ items, Skipped item.text) :
    skipFrom .after (.array :: stack)
        ((items.map Item.spelling).flatMap (comma :: ·) ++ closeBracket :: rest) = resume stack rest := by
  induction items with
  | nil => exact skipFrom_complete rfl
  | cons item items ih =>
      obtain ⟨first, others⟩ := List.forall_mem_cons.mp skipped
      have separates : Site.after.move (.array :: stack) comma = .go .value (.array :: stack) := rfl
      rw [List.map_cons, List.flatMap_cons, List.append_assoc, List.cons_append, skipFrom_go separates,
        skipFrom_item first (.parts (.inl rfl)), ih others]

theorem skipped_array {items : List Item} (blank : Blank blanks) (values : ∀ item ∈ items, Value item.text)
    (skipped : ∀ item ∈ items, Skipped item.text) : Skipped (arrayText blanks items) := by
  intro stack rest _
  have opens : Site.value.move stack openBracket = .go .firstItem (.array :: stack) := rfl
  simp only [arrayText, List.cons_append, List.append_assoc, List.nil_append]
  rw [skipFrom_go opens, skipFrom_blanks blank (by simp)]
  cases items with
  | nil => exact skipFrom_complete rfl
  | cons item items =>
      obtain ⟨first, others⟩ := List.forall_mem_cons.mp skipped
      obtain ⟨value, -⟩ := List.forall_mem_cons.mp values
      rw [List.map_cons, commas_cons, List.append_assoc, skipFrom_firstItem value,
        skipFrom_item first (.parts (.inl rfl)), skipFrom_items others]

theorem skipFrom_field {field : Field} (key : Body field.key) (skipped : Skipped field.value.text)
    (ends : Ends rest) (site_waits : site = .firstKey ∨ site = .key) :
    skipFrom site (bracket :: stack) (field.spelling ++ rest) =
      skipFrom .after (bracket :: stack) rest := by
  have quotes : site.move (bracket :: stack) quoteMark = .go (.text true) (bracket :: stack) := by
    rcases site_waits with rfl | rfl <;> rfl
  have separates : Site.colon.move (bracket :: stack) Json.colon = .go .value (bracket :: stack) := rfl
  simp only [Field.spelling, quoted, List.append_assoc, List.cons_append, List.nil_append]
  rw [skipFrom_blanks field.lead_blank (by grind), skipFrom_go quotes, skipFrom_body key, if_pos rfl,
    skipFrom_blanks field.gap_blank (by simp), skipFrom_go separates, skipFrom_item skipped ends]

theorem skipFrom_fields {fields : List Field} (keys : ∀ field ∈ fields, Body field.key)
    (skipped : ∀ field ∈ fields, Skipped field.value.text) :
    skipFrom .after (.object :: stack)
        ((fields.map Field.spelling).flatMap (comma :: ·) ++ closeBrace :: rest) = resume stack rest := by
  induction fields with
  | nil => exact skipFrom_complete rfl
  | cons field fields ih =>
      obtain ⟨key, keys⟩ := List.forall_mem_cons.mp keys
      obtain ⟨first, others⟩ := List.forall_mem_cons.mp skipped
      have separates : Site.after.move (.object :: stack) comma = .go .key (.object :: stack) := rfl
      rw [List.map_cons, List.flatMap_cons, List.append_assoc, List.cons_append, skipFrom_go separates,
        skipFrom_field key first (.parts (.inr rfl)) (by simp), ih keys others]

/-- An object ends with its closing brace, whatever comes after it. -/
theorem skipFrom_object {fields : List Field} (blank : Blank blanks) (keys : ∀ field ∈ fields, Body field.key)
    (skipped : ∀ field ∈ fields, Skipped field.value.text) :
    skipFrom .value stack (objectText blanks fields ++ rest) = resume stack rest := by
  have opens : Site.value.move stack openBrace = .go .firstKey (.object :: stack) := rfl
  simp only [objectText, List.cons_append, List.append_assoc, List.nil_append]
  rw [skipFrom_go opens, skipFrom_blanks blank (by simp)]
  cases fields with
  | nil => exact skipFrom_complete rfl
  | cons field fields =>
      obtain ⟨key, keys⟩ := List.forall_mem_cons.mp keys
      obtain ⟨first, others⟩ := List.forall_mem_cons.mp skipped
      rw [List.map_cons, commas_cons, List.append_assoc,
        skipFrom_field key first (.parts (.inr rfl)) (by simp), skipFrom_fields keys others]

theorem skipped_word {first : UInt8} (word : Bytes) {last : UInt8}
    (word_starts : ∀ stack, Site.value.move stack first = .go (.word (word ++ [last])) stack) :
    Skipped (first :: (word ++ [last])) := by
  intro stack rest _
  rw [List.cons_append, skipFrom_go (word_starts stack), List.append_assoc]
  exact skipFrom_word

/-- Every value can be skipped, at any depth. -/
theorem Value.skipped (value : Value text) : Skipped text := by
  induction value with
  | null => exact skipped_word [0x75, 0x6C] fun _ => rfl
  | true => exact skipped_word [0x72, 0x75] fun _ => rfl
  | false => exact skipped_word [0x61, 0x6C, 0x73] fun _ => rfl
  | number number => exact fun _ _ ends => skipFrom_number number ends
  | string spelled => exact fun _ _ _ => skipFrom_string spelled
  | array blank values skipped => exact skipped_array blank values skipped
  | object blank keys _ skipped => exact fun _ _ _ => skipFrom_object blank keys skipped

/-- Skipping a value leaves the bytes after it. -/
theorem skipValue_value (blank : Blank blanks) (value : Value text) (ends : Ends rest) :
    skipValue (blanks ++ (text ++ rest)) = .ok rest := by
  rw [skipValue, skipFrom_blanks blank (by simp), value.skipped _ _ ends, resume]

end NetSwitch.Json
