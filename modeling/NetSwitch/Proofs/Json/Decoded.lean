import NetSwitch.Proofs.Json.Text

/-! What a string that is read spells: the characters that are found in it.

A string is decoded to bytes, and these are read as a text only when it is at its end.  That an
escape stands for a character of its own, and is no part of one, is seen from its first byte.
-/

namespace NetSwitch.Json

open Text (GoesOn utf8_first utf8EncodeChar_append_inj)

/-- What a string is decoded to: bytes that stand for themselves, and the characters that escapes
spell. -/
inductive Decoded : Bytes → Bytes → Prop where
  | nil : Decoded [] []
  | plain {b : UInt8} {body bytes : Bytes} (plain : Plain b) (rest : Decoded body bytes) :
      Decoded (b :: body) (b :: bytes)
  | escape (spelling : Bytes) {body bytes : Bytes} {c : Char}
      (spells : ∀ {body cs}, Spelled body cs → Spelled (spelling ++ body) (c :: cs))
      (rest : Decoded body bytes) : Decoded (spelling ++ body) (String.utf8EncodeChar c ++ bytes)

/-- What goes on after the escape of a leading surrogate: with the escape that completes it. -/
inductive Completed (leading : Nat) : Bytes → Bytes → Prop where
  | mk {digits body bytes : Bytes} {trailing : Nat} (digit : Unit4 digits trailing)
      (isTrails : isTrailing trailing = true) (rest : Decoded body bytes) :
      Completed leading (backslash :: 0x75 :: (digits ++ body))
        (String.utf8EncodeChar
          (Char.ofNat ((leading - 0xD800) * 0x400 + (trailing - 0xDC00) + 0x10000)) ++ bytes)

variable {b : UInt8} {body bytes decoded left rest : Bytes} {cs : List Char}

theorem spellable_of_plain {c : Char} {more : Bytes} (first : String.utf8EncodeChar c = b :: more)
    (plain : Plain b) : c ≠ '"' ∧ c ≠ '\\' ∧ 0x20 ≤ c.toNat := by
  obtain ⟨notQuote, notEscape, visible⟩ := plain
  refine ⟨?_, ?_, Nat.le_of_not_lt fun control => ?_⟩
  · rintro rfl
    cases first
    exact notQuote rfl
  · rintro rfl
    cases first
    exact notEscape rfl
  · have small : c.val.toNat < 0x20 := control
    rw [String.utf8EncodeChar, if_pos (by omega)] at first
    cases first
    refine visible (UInt8.lt_iff_toNat_lt.mpr ?_)
    simp only [UInt8.toNat_ofNat', UInt8.reduceToNat]
    omega

/-- If what is decoded is a text, after some bytes that end a character, then these bytes stand for
themselves, and the others spell the text. -/
theorem Decoded.spelled {owing : Bytes} (decodes : Decoded body (owing ++ cs.flatMap String.utf8EncodeChar))
    (goOn : ∀ b ∈ owing, GoesOn b) : ∃ others, body = owing ++ others ∧ Spelled others cs := by
  generalize text : owing ++ cs.flatMap String.utf8EncodeChar = bytes at decodes
  induction decodes generalizing owing cs with
  | nil =>
      obtain ⟨rfl, none⟩ := List.append_eq_nil_iff.mp text
      cases cs with
      | nil => exact ⟨[], rfl, .nil⟩
      | cons c cs =>
          obtain ⟨b, more, first, -, -⟩ := utf8_first c
          rw [List.flatMap_cons, first] at none
          cases none
  | @plain b body bytes plain _ ih =>
      cases owing with
      | cons owed owing =>
          cases text
          obtain ⟨others, rfl, spelled⟩ := ih (List.forall_mem_cons.mp goOn).2 rfl
          exact ⟨others, rfl, spelled⟩
      | nil =>
          cases cs with
          | nil => cases text
          | cons c cs =>
              obtain ⟨first, more, isFirst, -, goOn⟩ := utf8_first c
              rw [List.nil_append, List.flatMap_cons, isFirst, List.cons_append] at text
              cases text
              obtain ⟨notQuote, notEscape, visible⟩ := spellable_of_plain isFirst plain
              obtain ⟨others, rfl, spelled⟩ := ih goOn rfl
              refine ⟨_, rfl, ?_⟩
              rw [← List.cons_append, ← isFirst]
              exact .plain notQuote notEscape visible spelled
  | @escape spelling body bytes c spells _ ih =>
      obtain ⟨first, more, isFirst, notFurther, -⟩ := utf8_first c
      cases owing with
      | cons owed owing =>
          rw [isFirst, List.cons_append, List.cons_append] at text
          obtain ⟨rfl, -⟩ := List.cons.inj text
          exact absurd (goOn owed (.head _)) notFurther
      | nil =>
          cases cs with
          | nil =>
              rw [isFirst] at text
              cases text
          | cons d cs =>
              rw [List.nil_append, List.flatMap_cons] at text
              obtain ⟨rfl, rfl⟩ := utf8EncodeChar_append_inj text
              obtain ⟨others, rfl, spelled⟩ := @ih cs [] nofun rfl
              exact ⟨_, rfl, spells spelled⟩

/-! ### Decoding -/

theorem Decoded.unit {digits : Bytes} {value : Nat} (digit : Unit4 digits value)
    (notLeading : isLeading value = false) (notTrailing : isTrailing value = false)
    (decodes : Decoded body bytes) :
    Decoded (backslash :: 0x75 :: (digits ++ body)) (String.utf8EncodeChar (Char.ofNat value) ++ bytes) :=
  .escape (backslash :: 0x75 :: digits) (fun spelled => .unit digit notLeading notTrailing spelled) decodes

theorem Completed.decodes {digits : Bytes} {leading : Nat} (digit : Unit4 digits leading)
    (isLeads : isLeading leading = true) (completes : Completed leading body bytes) :
    Decoded (backslash :: 0x75 :: (digits ++ body)) bytes := by
  obtain @⟨low, others, _, trailing, second, isTrails, decodes⟩ := completes
  have spells {body : Bytes} {cs : List Char} (spelled : Spelled body cs) :
      Spelled (backslash :: 0x75 :: (digits ++ backslash :: 0x75 :: low) ++ body)
        (Char.ofNat ((leading - 0xD800) * 0x400 + (trailing - 0xDC00) + 0x10000) :: cs) := by
    simp only [List.cons_append, List.append_assoc]
    exact .pair digit second isLeads isTrails spelled
  have decoded := Decoded.escape _ spells decodes
  simp only [List.cons_append, List.append_assoc] at decoded
  exact decoded

/-- What is found from some place within a string on. -/
def Place.Decodes : Place → Bytes → Bytes → Prop
  | .leading unit => Completed unit
  | _ => Decoded

/-- A first unit is a character or leads to another unit. -/
theorem takeUnit_first {value : Nat} {added : Bytes} {next : Place}
    (takes : takeUnit (some value) none = .ok (added, next)) :
    isTrailing value = false ∧ (isLeading value = true ∧ added = [] ∧ next = .leading value ∨
      isLeading value = false ∧ added = String.utf8EncodeChar (Char.ofNat value) ∧ next = .plain) := by
  unfold takeUnit at takes
  dsimp only at takes
  split at takes
  · cases takes
  next notTrailing =>
    refine ⟨by simpa using notTrailing, ?_⟩
    split at takes <;> rename_i leads <;> cases takes
    · exact .inl ⟨leads, rfl, rfl⟩
    · exact .inr ⟨by simpa using leads, rfl, rfl⟩

theorem takeUnit_second {value leading : Nat} {added : Bytes} {next : Place}
    (takes : takeUnit (some value) (some leading) = .ok (added, next)) :
    isTrailing value = true ∧ next = .plain ∧ added = String.utf8EncodeChar
      (Char.ofNat ((leading - 0xD800) * 0x400 + (value - 0xDC00) + 0x10000)) := by
  unfold takeUnit at takes
  dsimp only at takes
  split at takes
  next trails =>
    simp only [Except.ok.injEq, Prod.mk.injEq] at takes
    exact ⟨trails, takes.2.symm, takes.1.symm⟩
  · cases takes

/-- A string that is decoded ends with its closing quote, and all that is found comes from its parts. -/
theorem decodeText_body {place : Place} (waits : place = .plain ∨ ∃ unit, place = .leading unit)
    (isBody : Body body) (reads : decodeText decoded place (body ++ quoteMark :: rest) = .ok (bytes, left)) :
    left = rest ∧ ∃ found, place.Decodes body found ∧ bytes = decoded.reverse ++ found := by
  have escapes : Place.plain.step backslash = .ok ([], .escape) := rfl
  have goesOn (unit : Nat) : (Place.leading unit).step backslash = .ok ([], .leadingEscape unit) := rfl
  induction isBody generalizing decoded place with
  | nil =>
      rcases waits with rfl | ⟨unit, rfl⟩ <;> cases reads
      exact ⟨rfl, [], .nil, (List.append_nil _).symm⟩
  | @plain b _ notQuote notEscape visible _ ih =>
      rcases waits with rfl | ⟨unit, rfl⟩
      · have steps : Place.plain.step b = .ok ([b], .plain) := by
          rw [Place.step, if_neg notEscape, if_neg visible]
        rw [List.cons_append, decodeText_step (fun _ => notQuote) steps] at reads
        obtain ⟨rfl, found, decodes, rfl⟩ := ih (.inl rfl) reads
        exact ⟨rfl, b :: found, .plain ⟨notQuote, notEscape, visible⟩ decodes, by simp⟩
      · have fails : (Place.leading unit).step b = .error .malformed := if_neg notEscape
        simp [decodeText, fails] at reads
  | @escape letter _ known _ ih =>
      obtain ⟨named, known⟩ := Option.isSome_iff_exists.mp known
      obtain ⟨notUnit, spelling⟩ := utf8_of_escaped known
      rw [List.cons_append, List.cons_append] at reads
      rcases waits with rfl | ⟨unit, rfl⟩
      · have names : Place.escape.step letter = .ok ([named], .plain) := by
          rw [Place.step, if_neg notUnit, known]
        rw [decodeText_step (by decide) escapes, decodeText_step (by simp) names] at reads
        obtain ⟨rfl, found, decodes, rfl⟩ := ih (.inl rfl) reads
        refine ⟨rfl, named :: found, ?_, by simp⟩
        have decoded := Decoded.escape [backslash, letter] (fun spelled => .escape known spelled) decodes
        rwa [spelling] at decoded
      · have fails : (Place.leadingEscape unit).step letter = .error .malformed := if_neg notUnit
        rw [decodeText_step (by simp) (goesOn unit)] at reads
        simp [decodeText, fails] at reads
  | @unit digits more value digit _ ih =>
      rw [List.cons_append, List.cons_append, List.append_assoc] at reads
      rcases waits with rfl | ⟨unit, rfl⟩
      · have numbers : Place.escape.step 0x75 = .ok ([], .digits 4 (some 0) none) := rfl
        rw [decodeText_step (by decide) escapes, decodeText_step (by simp) numbers,
          decodeText_unit digit] at reads
        split at reads
        · cases reads
        next takes =>
          obtain ⟨notTrailing, ⟨leads, rfl, rfl⟩ | ⟨notLeading, rfl, rfl⟩⟩ := takeUnit_first takes
          · obtain ⟨rfl, found, completes, rfl⟩ := ih (.inr ⟨_, rfl⟩) reads
            exact ⟨rfl, found, completes.decodes digit leads, by simp⟩
          · obtain ⟨rfl, found, decodes, rfl⟩ := ih (.inl rfl) reads
            exact ⟨rfl, _, .unit digit notLeading notTrailing decodes, by simp⟩
      · have numbers : (Place.leadingEscape unit).step 0x75 = .ok ([], .digits 4 (some 0) (some unit)) := rfl
        rw [decodeText_step (by simp) (goesOn unit), decodeText_step (by simp) numbers,
          decodeText_unit digit] at reads
        split at reads
        · cases reads
        next takes =>
          obtain ⟨trails, next, spelling⟩ := takeUnit_second takes
          subst next
          obtain ⟨rfl, found, decodes, rfl⟩ := ih (.inl rfl) reads
          exact ⟨rfl, _, .mk digit trails decodes, by simp [spelling]⟩

/-- A string that is read spells what is read. -/
theorem readText_body {read : String} (isBody : Body body)
    (reads : readText (body ++ quoteMark :: rest) = .ok (read, left)) :
    left = rest ∧ Spelled body read.toList := by
  obtain ⟨⟨bytes, after⟩, decodes, keeps⟩ := bind_ok.mp reads
  obtain ⟨rfl, found, isDecoded, same⟩ := decodeText_body (.inl rfl) isBody decodes
  rw [List.reverse_nil, List.nil_append] at same
  subst same
  dsimp only at keeps
  split at keeps
  next text isText =>
    cases keeps
    obtain rfl := Bytes.toString?_eq_some.mp isText
    obtain ⟨others, rfl, spelled⟩ := @Decoded.spelled body read.toList [] isDecoded nofun
    exact ⟨rfl, spelled⟩
  · cases keeps

end NetSwitch.Json
