import NetSwitch.Text.Bytes

/-! The bytes that spell a character spell it and nothing else, and no other bytes spell it. -/

namespace NetSwitch

namespace Text

variable {b : UInt8} {v : Nat} {u : Unfinished} {rest : Bytes}

/-! ### First bytes

The first byte says how many there are. -/

theorem begin_one (bound : b.toNat ≤ 0x7F) : begin b = ([.char (Char.ofNat b.toNat)], none) := by
  rw [begin, if_pos (UInt8.le_iff_toNat_le.mpr bound)]

theorem begin_two (low : 0xC2 ≤ b.toNat) (high : b.toNat ≤ 0xDF) :
    begin b = ([], some ⟨[b], 0x80, 0xBF, 0, b.toNat - 0xC0⟩) := by
  simp only [begin, UInt8.le_iff_toNat_le, UInt8.lt_iff_toNat_lt, UInt8.reduceToNat]
  rw [if_neg (by omega), if_neg (by omega), if_pos (by omega)]

theorem begin_three (low : 0xE0 ≤ b.toNat) (high : b.toNat ≤ 0xEF) :
    begin b = ([], some ⟨[b], if b = 0xE0 then 0xA0 else 0x80, if b = 0xED then 0x9F else 0xBF, 1,
      b.toNat - 0xE0⟩) := by
  simp only [begin, UInt8.le_iff_toNat_le, UInt8.lt_iff_toNat_lt, UInt8.reduceToNat]
  rw [if_neg (by omega), if_neg (by omega), if_neg (by omega), if_pos (by omega)]

theorem begin_four (low : 0xF0 ≤ b.toNat) (high : b.toNat ≤ 0xF4) :
    begin b = ([], some ⟨[b], if b = 0xF0 then 0x90 else 0x80, if b = 0xF4 then 0x8F else 0xBF, 2,
      b.toNat - 0xF0⟩) := by
  simp only [begin, UInt8.le_iff_toNat_le, UInt8.lt_iff_toNat_lt, UInt8.reduceToNat]
  rw [if_neg (by omega), if_neg (by omega), if_neg (by omega), if_neg (by omega), if_pos (by omega)]

theorem piecesAfter_begin {pieces : List Piece} {unfinished : Option Unfinished}
    (begins : begin b = (pieces, unfinished)) :
    piecesAfter none (b :: rest) = pieces ++ piecesAfter unfinished rest := by
  rw [piecesAfter, advance, begins]

/-! ### Further bytes -/

theorem piecesAfter_extend (low : u.low.toNat ≤ b.toNat) (high : b.toNat ≤ u.high.toNat) :
    piecesAfter (some u) (b :: rest) = (u.extend b).1 ++ piecesAfter (u.extend b).2 rest := by
  rw [piecesAfter, advance,
    if_pos ⟨UInt8.le_iff_toNat_le.mpr low, UInt8.le_iff_toNat_le.mpr high⟩]

def further (v : Nat) : UInt8 :=
  UInt8.ofNat (v % 64 + 128)

theorem toNat_further (v : Nat) : (further v).toNat = v % 64 + 128 := by
  rw [further, UInt8.toNat_ofNat', Nat.mod_eq_of_lt (by omega)]

/-- The last byte of a character. -/
theorem piecesAfter_last (owes : u.owed = 0) (low : u.low.toNat ≤ v % 64 + 128)
    (high : v % 64 + 128 ≤ u.high.toNat) :
    piecesAfter (some u) (further v :: rest) =
      .char (Char.ofNat (u.value * 64 + v % 64)) :: piecesAfter none rest := by
  rw [← toNat_further] at low high
  rw [piecesAfter_extend low high, Unfinished.extend, owes, toNat_further, Nat.add_sub_cancel]
  rfl

theorem piecesAfter_next {owed : Nat} (owes : u.owed = owed + 1) (low : u.low.toNat ≤ v % 64 + 128)
    (high : v % 64 + 128 ≤ u.high.toNat) :
    piecesAfter (some u) (further v :: rest) =
      piecesAfter (some ⟨u.seen ++ [further v], 0x80, 0xBF, owed, u.value * 64 + v % 64⟩) rest := by
  rw [← toNat_further] at low high
  rw [piecesAfter_extend low high, Unfinished.extend, owes, toNat_further, Nat.add_sub_cancel]
  rfl

/-- Every further byte but the second is only bounded as further bytes are. -/
theorem further_bounds (v : Nat) :
    (0x80 : UInt8).toNat ≤ v % 64 + 128 ∧ v % 64 + 128 ≤ (0xBF : UInt8).toNat := by
  simp only [UInt8.reduceToNat]
  omega

theorem piecesAfter_one (high : v ≤ 0x7F) :
    piecesAfter none (UInt8.ofNat v :: rest) = .char (Char.ofNat v) :: piecesAfter none rest := by
  have first : (UInt8.ofNat v).toNat = v := by
    rw [UInt8.toNat_ofNat']
    omega
  rw [piecesAfter_begin (begin_one (by omega)), first]
  rfl

theorem piecesAfter_two (low : 0x80 ≤ v) (high : v ≤ 0x7FF) :
    piecesAfter none (UInt8.ofNat (v / 64 % 32 + 192) :: further v :: rest) =
      .char (Char.ofNat v) :: piecesAfter none rest := by
  have first : (UInt8.ofNat (v / 64 % 32 + 192)).toNat = v / 64 + 192 := by
    rw [UInt8.toNat_ofNat']
    omega
  have value : (v / 64 + 192 - 192) * 64 + v % 64 = v := by omega
  rw [piecesAfter_begin (begin_two (by omega) (by omega)), List.nil_append,
    piecesAfter_last rfl (further_bounds v).1 (further_bounds v).2]
  simp only [first, value]

theorem piecesAfter_three (low : 0x800 ≤ v) (high : v ≤ 0xFFFF) (valid : v < 0xD800 ∨ 0xDFFF < v) :
    piecesAfter none (UInt8.ofNat (v / 4096 % 16 + 224) :: further (v / 64) :: further v :: rest) =
      .char (Char.ofNat v) :: piecesAfter none rest := by
  have first : (UInt8.ofNat (v / 4096 % 16 + 224)).toNat = v / 4096 + 224 := by
    rw [UInt8.toNat_ofNat']
    omega
  have value : ((v / 4096 + 224 - 224) * 64 + v / 64 % 64) * 64 + v % 64 = v := by omega
  rw [piecesAfter_begin (begin_three (by omega) (by omega)), List.nil_append,
    piecesAfter_next rfl _ _, piecesAfter_last rfl (further_bounds v).1 (further_bounds v).2]
  · simp only [first, value]
  · simp only [← UInt8.toNat_inj, first, UInt8.reduceToNat]
    split <;> simp only [UInt8.reduceToNat] <;> omega
  · simp only [← UInt8.toNat_inj, first, UInt8.reduceToNat]
    split <;> simp only [UInt8.reduceToNat] <;> omega

theorem piecesAfter_four (low : 0x10000 ≤ v) (high : v < 0x110000) :
    piecesAfter none (UInt8.ofNat (v / 262144 % 8 + 240) :: further (v / 4096) :: further (v / 64) ::
      further v :: rest) = .char (Char.ofNat v) :: piecesAfter none rest := by
  have first : (UInt8.ofNat (v / 262144 % 8 + 240)).toNat = v / 262144 + 240 := by
    rw [UInt8.toNat_ofNat']
    omega
  have value : (((v / 262144 + 240 - 240) * 64 + v / 4096 % 64) * 64 + v / 64 % 64) * 64 + v % 64 = v := by
    omega
  rw [piecesAfter_begin (begin_four (by omega) (by omega)), List.nil_append,
    piecesAfter_next rfl _ _, piecesAfter_next rfl (further_bounds _).1 (further_bounds _).2,
    piecesAfter_last rfl (further_bounds v).1 (further_bounds v).2]
  · simp only [first, value]
  · simp only [← UInt8.toNat_inj, first, UInt8.reduceToNat]
    split <;> simp only [UInt8.reduceToNat] <;> omega
  · simp only [← UInt8.toNat_inj, first, UInt8.reduceToNat]
    split <;> simp only [UInt8.reduceToNat] <;> omega

theorem piecesAfter_char (c : Char) (rest : Bytes) :
    piecesAfter none (String.utf8EncodeChar c ++ rest) = .char c :: piecesAfter none rest := by
  have valid : c.val.toNat < 0xD800 ∨ 0xDFFF < c.val.toNat ∧ c.val.toNat < 0x110000 := c.valid
  have same : Char.ofNat c.val.toNat = c := Char.ofNat_toNat c
  fun_cases String.utf8EncodeChar c
  case case1 v one => exact (piecesAfter_one one).trans (by rw [same]; rfl)
  case case2 v _ two => exact (piecesAfter_two (by omega) two).trans (by rw [same]; rfl)
  case case3 v _ _ three =>
    exact (piecesAfter_three (by omega) three (by omega)).trans (by rw [same]; rfl)
  case case4 v _ _ _ => exact (piecesAfter_four (by omega) (by omega)).trans (by rw [same]; rfl)

theorem pieces_utf8 (cs : List Char) : pieces (cs.flatMap String.utf8EncodeChar) = cs.map .char := by
  induction cs with
  | nil => rfl
  | cons c cs ih => rw [List.flatMap_cons, pieces, piecesAfter_char, ← pieces, ih, List.map_cons]

/-- What one character's bytes start with is no other's. -/
theorem utf8EncodeChar_append_inj {c d : Char} {left right : Bytes}
    (same : String.utf8EncodeChar c ++ left = String.utf8EncodeChar d ++ right) : c = d ∧ left = right := by
  have pieces := piecesAfter_char c left
  rw [same, piecesAfter_char, List.cons.injEq, Piece.char.injEq] at pieces
  obtain rfl := pieces.1
  exact ⟨rfl, List.append_cancel_left same⟩

/-- Whether a byte is a further one of a character. -/
def GoesOn (b : UInt8) : Prop :=
  0x80 ≤ b.toNat ∧ b.toNat < 0xC0

theorem utf8_first (c : Char) :
    ∃ b more, String.utf8EncodeChar c = b :: more ∧ ¬ GoesOn b ∧ ∀ other ∈ more, GoesOn other := by
  have valid : c.val.toNat < 0xD800 ∨ 0xDFFF < c.val.toNat ∧ c.val.toNat < 0x110000 := c.valid
  fun_cases String.utf8EncodeChar c
  case case1 v one =>
    refine ⟨_, [], rfl, ?_, nofun⟩
    simp only [GoesOn, UInt8.toNat_ofNat']
    omega
  all_goals
    refine ⟨_, _, rfl, ?_, ?_⟩
    · simp only [GoesOn, UInt8.toNat_ofNat']
      omega
    · simp only [List.forall_mem_cons, List.not_mem_nil, false_implies, implies_true, and_true, GoesOn,
        UInt8.toNat_ofNat']
      omega

/-! ### Nothing else is read as a character -/

/-- The bytes of a character after the first ones. -/
def furthers (v : Nat) : Nat → Bytes
  | 0 => [further v]
  | owed + 1 => further (v / Nat.pow 64 (owed + 1)) :: furthers v owed

/-- What has been seen of a character is how every character starts that it may become. -/
structure Unfinished.Sound (u : Unfinished) : Prop where
  low : 0x80 ≤ u.low.toNat
  high : u.high.toNat ≤ 0xBF
  spells : ∀ v, v / Nat.pow 64 (u.owed + 1) = u.value → u.low.toNat ≤ v / Nat.pow 64 u.owed % 64 + 128 →
    v / Nat.pow 64 u.owed % 64 + 128 ≤ u.high.toNat →
    String.utf8EncodeChar (Char.ofNat v) = u.seen ++ furthers v u.owed

theorem toNat_ofNat (valid : v < 0xD800 ∨ 0xDFFF < v ∧ v < 0x110000) : (Char.ofNat v).val.toNat = v := by
  have isChar : v.isValidChar := valid
  rw [Char.ofNat, dif_pos isChar]
  rfl

theorem utf8_one (high : v ≤ 0x7F) : String.utf8EncodeChar (Char.ofNat v) = [UInt8.ofNat v] := by
  simp only [String.utf8EncodeChar, toNat_ofNat (v := v) (by omega)]
  rw [if_pos high]

theorem utf8_two (low : 0x80 ≤ v) (high : v ≤ 0x7FF) :
    String.utf8EncodeChar (Char.ofNat v) = UInt8.ofNat (v / 64 % 32 + 192) :: furthers v 0 := by
  simp only [String.utf8EncodeChar, toNat_ofNat (v := v) (by omega)]
  rw [if_neg (by omega), if_pos high]
  rfl

theorem utf8_three (low : 0x800 ≤ v) (high : v ≤ 0xFFFF) (valid : v < 0xD800 ∨ 0xDFFF < v) :
    String.utf8EncodeChar (Char.ofNat v) = UInt8.ofNat (v / 4096 % 16 + 224) :: furthers v 1 := by
  simp only [String.utf8EncodeChar, toNat_ofNat (v := v) (by omega)]
  rw [if_neg (by omega), if_neg (by omega), if_pos high]
  rfl

theorem utf8_four (low : 0x10000 ≤ v) (high : v < 0x110000) :
    String.utf8EncodeChar (Char.ofNat v) = UInt8.ofNat (v / 262144 % 8 + 240) :: furthers v 2 := by
  simp only [String.utf8EncodeChar, toNat_ofNat (v := v) (by omega)]
  rw [if_neg (by omega), if_neg (by omega), if_neg (by omega)]
  rfl

/-- What comes of one more byte after some that have been seen, unless they cannot go together. -/
inductive Sound (seen : Bytes) (b : UInt8) : List Piece × Option Unfinished → Prop where
  | char {c : Char} (spells : String.utf8EncodeChar c = seen ++ [b]) : Sound seen b ([.char c], none)
  | unfinished {u : Unfinished} (sound : u.Sound) (grown : u.seen = seen ++ [b]) : Sound seen b ([], some u)
  | invalid {bytes : Bytes} {more : List Piece} {next : Option Unfinished} :
      Sound seen b (.invalid bytes :: more, next)

theorem ofNat_eq (b : UInt8) {n : Nat} (same : n = b.toNat) : UInt8.ofNat n = b := by
  rw [same, UInt8.ofNat_toNat]

theorem Unfinished.Sound.two (low : 0xC2 ≤ b.toNat) (high : b.toNat ≤ 0xDF) :
    Sound ⟨[b], 0x80, 0xBF, 0, b.toNat - 0xC0⟩ where
  low := Nat.le_refl _
  high := Nat.le_refl _
  spells v value least most := by
    simp only [UInt8.reduceToNat, Nat.reduceAdd, Nat.pow_eq, Nat.reducePow, Nat.div_one] at value least most
    rw [utf8_two (by omega) (by omega), ofNat_eq b (by omega)]
    rfl

/-- The bounds of the second byte keep out long spellings and surrogates. -/
theorem Unfinished.Sound.three (low : 0xE0 ≤ b.toNat) (high : b.toNat ≤ 0xEF) :
    Sound ⟨[b], if b = 0xE0 then 0xA0 else 0x80, if b = 0xED then 0x9F else 0xBF, 1, b.toNat - 0xE0⟩ where
  low := by dsimp only; split <;> decide
  high := by dsimp only; split <;> decide
  spells v value least most := by
    simp only [apply_ite UInt8.toNat, ← UInt8.toNat_inj, UInt8.reduceToNat, Nat.reduceAdd,
      Nat.pow_eq, Nat.reducePow] at value least most
    have isThree : 0x800 ≤ v ∧ v ≤ 0xFFFF ∧ (v < 0xD800 ∨ 0xDFFF < v) := by
      split at least <;> split at most <;> omega
    rw [utf8_three isThree.1 isThree.2.1 isThree.2.2, ofNat_eq b (by omega)]
    rfl

/-- The bounds of the second byte keep out long spellings and values above the last character. -/
theorem Unfinished.Sound.four (low : 0xF0 ≤ b.toNat) (high : b.toNat ≤ 0xF4) :
    Sound ⟨[b], if b = 0xF0 then 0x90 else 0x80, if b = 0xF4 then 0x8F else 0xBF, 2, b.toNat - 0xF0⟩ where
  low := by dsimp only; split <;> decide
  high := by dsimp only; split <;> decide
  spells v value least most := by
    simp only [apply_ite UInt8.toNat, ← UInt8.toNat_inj, UInt8.reduceToNat, Nat.reduceAdd,
      Nat.pow_eq, Nat.reducePow] at value least most
    have isFour : 0x10000 ≤ v ∧ v < 0x110000 := by
      split at least <;> split at most <;> omega
    rw [utf8_four isFour.1 isFour.2, ofNat_eq b (by omega)]
    rfl

theorem begin_sound (b : UInt8) : Sound [] b (begin b) := by
  unfold begin
  simp only [UInt8.le_iff_toNat_le, UInt8.lt_iff_toNat_lt, UInt8.reduceToNat]
  split
  case isTrue one => exact .char (by rw [utf8_one one, ofNat_eq b rfl]; rfl)
  split
  · exact .invalid
  split
  case isTrue two => exact .unfinished (.two (by omega) two) rfl
  split
  case isTrue three => exact .unfinished (.three (by omega) three) rfl
  split
  case isTrue four => exact .unfinished (.four (by omega) four) rfl
  · exact .invalid

theorem Unfinished.Sound.extend (sound : u.Sound) (low : u.low.toNat ≤ b.toNat)
    (high : b.toNat ≤ u.high.toNat) : Text.Sound u.seen b (u.extend b) := by
  obtain ⟨least, most, spells⟩ := sound
  have same {v : Nat} (equal : v % 64 + 128 = b.toNat) : further v = b := ofNat_eq b equal
  unfold Unfinished.extend
  cases owes : u.owed with
  | zero =>
      simp only [owes, Nat.pow_eq, Nat.zero_add, Nat.pow_one, Nat.pow_zero, Nat.div_one] at spells
      refine .char ((spells _ ?_ ?_ ?_).trans ?_)
      · omega
      · omega
      · omega
      · rw [furthers, same (by omega)]
  | succ owed =>
      refine .unfinished ⟨Nat.le_refl _, Nat.le_refl _, fun v value _ _ => ?_⟩ rfl
      rw [owes] at spells
      dsimp only at value ⊢
      have byte : v / Nat.pow 64 (owed + 1) % 64 + 128 = b.toNat := by omega
      rw [spells v ?_ (byte ▸ low) (byte ▸ high), furthers, same byte, List.append_assoc]
      · rfl
      · rw [Nat.pow_eq, Nat.pow_succ, ← Nat.div_div_eq_div_mul, ← Nat.pow_eq]
        omega

def seen : Option Unfinished → Bytes
  | none => []
  | some u => u.seen

theorem advance_sound {unfinished : Option Unfinished} (sound : ∀ u ∈ unfinished, u.Sound) :
    Sound (seen unfinished) b (advance unfinished b) := by
  cases unfinished with
  | none => exact begin_sound b
  | some u =>
      rw [advance]
      split
      case isTrue within =>
        exact (sound u rfl).extend (UInt8.le_iff_toNat_le.mp within.1) (UInt8.le_iff_toNat_le.mp within.2)
      case isFalse => exact .invalid

/-- Bytes in which only characters are found spell these. -/
theorem piecesAfter_sound {unfinished : Option Unfinished} {bytes : Bytes} {cs : List Char}
    (sound : ∀ u ∈ unfinished, u.Sound) (found : piecesAfter unfinished bytes = cs.map .char) :
    seen unfinished ++ bytes = cs.flatMap String.utf8EncodeChar := by
  induction bytes generalizing unfinished cs with
  | nil =>
      cases unfinished with
      | none => cases cs <;> cases found; rfl
      | some u => cases cs <;> cases found
  | cons b bytes ih =>
      have advances := advance_sound (b := b) sound
      rw [piecesAfter] at found
      generalize advance unfinished b = advanced at advances found
      cases advances with
      | @char c spells =>
          obtain ⟨d, ds, rfl, same, rest⟩ := List.map_eq_cons_iff.mp found.symm
          cases same
          have later := @ih none ds nofun rest.symm
          rw [List.flatMap_cons, spells, List.append_assoc, ← later]
          rfl
      | @unfinished u sound grown =>
          have later := @ih (some u) cs (by rintro _ ⟨⟩; exact sound) found
          rw [← later, seen, grown, List.append_assoc]
          rfl
      | invalid => cases cs <;> cases found

theorem map_char_of_mapM {pieces : List Piece} {cs : List Char} (whole : pieces.mapM Piece.char? = some cs) :
    pieces = cs.map .char := by
  induction pieces generalizing cs with
  | nil => cases whole; rfl
  | cons piece pieces ih =>
      rw [List.mapM_cons] at whole
      obtain ⟨c, isChar, more⟩ := Option.bind_eq_some_iff.mp whole
      obtain ⟨cs', others, same⟩ := Option.bind_eq_some_iff.mp more
      cases same
      cases piece <;> cases isChar
      rw [ih others, List.map_cons]

end Text

namespace Bytes

theorem toString?_utf8 (cs : List Char) :
    toString? (cs.flatMap String.utf8EncodeChar) = some (String.ofList cs) := by
  have whole : (cs.map Text.Piece.char).mapM Text.Piece.char? = some cs := by
    induction cs with
    | nil => rfl
    | cons c cs ih => rw [List.map_cons, List.mapM_cons, ih]; rfl
  rw [toString?, Text.pieces_utf8, whole, Option.map_some]

theorem toString?_ofString (text : String) : toString? (ofString text) = some text := by
  rw [ofString, toString?_utf8, String.ofList_toList]

theorem ofString_inj {text other : String} : ofString text = ofString other ↔ text = other := by
  refine ⟨fun same => ?_, congrArg ofString⟩
  have reads := toString?_ofString text
  rw [same, toString?_ofString] at reads
  exact (Option.some.inj reads).symm

@[simp] theorem ofString_ofList (cs : List Char) :
    ofString (String.ofList cs) = cs.flatMap String.utf8EncodeChar := by
  rw [ofString, String.toList_ofList]

/-- A text is read from its own bytes only. -/
theorem toString?_eq_some {bytes : Bytes} {text : String} :
    toString? bytes = some text ↔ bytes = ofString text := by
  refine ⟨fun reads => ?_, fun spells => spells ▸ toString?_ofString text⟩
  obtain ⟨cs, whole, rfl⟩ := Option.map_eq_some_iff.mp reads
  rw [ofString_ofList]
  exact @Text.piecesAfter_sound none bytes cs nofun (Text.map_char_of_mapM whole)

end Bytes

end NetSwitch
