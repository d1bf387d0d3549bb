import NetSwitch.Proofs.Json.Grammar
import NetSwitch.Proofs.Text.Utf8

/-! Reading the strings of a text. -/

namespace NetSwitch.Json

variable {b : UInt8} {body decoded digits rest : Bytes} {cs : List Char} {value n : Nat}

/-- What is read by two readers in a row is read by each. -/
theorem bind_ok {x : Except ε α} {f : α → Except ε β} {b : β} :
    (x >>= f) = .ok b ↔ ∃ a, x = .ok a ∧ f a = .ok b := by
  cases x <;> simp [bind, Except.bind]

theorem map_ok {x : Except ε α} {f : α → β} {b : β} : x.map f = .ok b ↔ ∃ a, x = .ok a ∧ f a = b := by
  cases x <;> simp [Except.map]

/-! ### Bytes that stand for themselves -/

structure Plain (b : UInt8) : Prop where
  notQuote : b ≠ quoteMark
  notEscape : b ≠ backslash
  visible : ¬ b < 0x20

theorem plain_of_toNat (notQuote : b.toNat ≠ 0x22) (notEscape : b.toNat ≠ 0x5C)
    (visible : 0x20 ≤ b.toNat) : Plain b where
  notQuote same := notQuote (by rw [same]; rfl)
  notEscape same := notEscape (by rw [same]; rfl)
  visible below := by
    have small : b.toNat < 0x20 := UInt8.lt_iff_toNat_lt.mp below
    omega

theorem plain_of_large (large : 0x80 ≤ n) (bound : n < 0x100) : Plain (UInt8.ofNat n) := by
  have same : (UInt8.ofNat n).toNat = n := by
    rw [UInt8.toNat_ofNat']
    omega
  exact plain_of_toNat (by omega) (by omega) (by omega)

/-- The bytes of a character that takes several are beyond those that mean something in a string. -/
theorem plain_utf8 {c : Char} (notQuote : c ≠ '"') (notEscape : c ≠ '\\') (visible : 0x20 ≤ c.toNat) :
    ∀ b ∈ String.utf8EncodeChar c, Plain b := by
  have unquoted : c.val.toNat ≠ 0x22 := fun same => notQuote (Char.toNat_inj.mp same)
  have unescaped : c.val.toNat ≠ 0x5C := fun same => notEscape (Char.toNat_inj.mp same)
  have proper : 0x20 ≤ c.val.toNat := visible
  fun_cases String.utf8EncodeChar c <;>
    simp only [List.forall_mem_cons, List.not_mem_nil, false_implies, implies_true, and_true]
  case case1 v one =>
    have same : (UInt8.ofNat v).toNat = v := by
      rw [UInt8.toNat_ofNat']
      omega
    exact plain_of_toNat (by omega) (by omega) (by omega)
  all_goals
    repeat' apply And.intro
    all_goals exact plain_of_large (by omega) (by omega)

/-! ### Decoding -/

theorem decodeText_step {place next : Place} {added : Bytes} (notEnd : place = .plain → b ≠ quoteMark)
    (steps : place.step b = .ok (added, next)) :
    decodeText decoded place (b :: rest) = decodeText (added.reverse ++ decoded) next rest := by
  rw [decodeText, if_neg fun ends => notEnd ends.1 ends.2, steps]

theorem decodeText_plain {bytes : Bytes} (plain : ∀ b ∈ bytes, Plain b) :
    decodeText decoded .plain (bytes ++ rest) = decodeText (bytes.reverse ++ decoded) .plain rest := by
  induction bytes generalizing decoded with
  | nil => rfl
  | cons b bytes ih =>
      obtain ⟨⟨notQuote, notEscape, visible⟩, others⟩ := List.forall_mem_cons.mp plain
      have steps : Place.plain.step b = .ok ([b], .plain) := by
        rw [Place.step, if_neg notEscape, if_neg visible]
      rw [List.cons_append, decodeText_step (fun _ => notQuote) steps, ih others]
      simp

/-- The escapes of one letter name characters of one byte, and none of the letters is the one that
numbers a character. -/
theorem utf8_of_escaped {letter named : UInt8} (known : escaped? letter = some named) :
    letter ≠ 0x75 ∧ String.utf8EncodeChar (Char.ofNat named.toNat) = [named] := by
  unfold escaped? at known
  split at known
  case isTrue same =>
    cases known
    rcases same with rfl | rfl | rfl <;> decide
  repeat'
    split at known
    case isTrue same =>
      cases known
      subst same
      decide
  cases known

theorem Place.step_digit {missing read digit : Nat} {leading : Option Nat}
    (isDigit : hexDigit? b = some digit) :
    (Place.digits (missing + 2) (some read) leading).step b =
      .ok ([], .digits (missing + 1) (some (read * 16 + digit)) leading) := by
  simp [Place.step, isDigit]

theorem Place.step_last {read digit : Nat} {leading : Option Nat} (isDigit : hexDigit? b = some digit) :
    (Place.digits 1 (some read) leading).step b = takeUnit (some (read * 16 + digit)) leading := by
  simp [Place.step, isDigit]

theorem decodeText_last {read digit : Nat} {leading : Option Nat} (isDigit : hexDigit? b = some digit) :
    decodeText decoded (.digits 1 (some read) leading) (b :: rest) =
      match takeUnit (some (read * 16 + digit)) leading with
      | .error e => .error e
      | .ok (added, next) => decodeText (added.reverse ++ decoded) next rest :=
  Place.step_last isDigit ▸ if_neg (by simp)

/-- The four digits of an escape are taken together. -/
theorem decodeText_unit {leading : Option Nat} (unit : Unit4 digits value) :
    decodeText decoded (.digits 4 (some 0) leading) (digits ++ rest) =
      match takeUnit (some value) leading with
      | .error e => .error e
      | .ok (added, next) => decodeText (added.reverse ++ decoded) next rest := by
  obtain ⟨first, second, third, fourth⟩ := unit
  simp only [List.cons_append, List.nil_append]
  rw [decodeText_step (by simp) (Place.step_digit first), decodeText_step (by simp) (Place.step_digit second),
    decodeText_step (by simp) (Place.step_digit third)]
  simp only [Nat.zero_mul, Nat.zero_add]
  exact decodeText_last fourth

theorem not_trailing_of_leading (leads : isLeading value = true) : isTrailing value = false := by
  simp only [isLeading, isTrailing, Bool.and_eq_true, decide_eq_true_eq, Bool.and_eq_false_iff,
    decide_eq_false_iff_not] at *
  omega

/-- A string is decoded to the characters that it spells. -/
theorem decodeText_spelled (spelled : Spelled body cs) :
    decodeText decoded .plain (body ++ quoteMark :: rest) =
      .ok (decoded.reverse ++ cs.flatMap String.utf8EncodeChar, rest) := by
  have escapes : Place.plain.step backslash = .ok ([], .escape) := rfl
  have numbers : Place.escape.step 0x75 = .ok ([], .digits 4 (some 0) none) := rfl
  induction spelled generalizing decoded with
  | nil => simp [decodeText]
  | plain notQuote notEscape visible _ ih =>
      rw [List.append_assoc, decodeText_plain (plain_utf8 notQuote notEscape visible), ih]
      simp
  | @escape letter named _ _ known _ ih =>
      obtain ⟨notUnit, bytes⟩ := utf8_of_escaped known
      have names : Place.escape.step letter = .ok ([named], .plain) := by
        rw [Place.step, if_neg notUnit, known]
      rw [List.cons_append, List.cons_append, decodeText_step (by decide) escapes,
        decodeText_step (by simp) names, ih]
      simp [bytes]
  | unit digit notLeading notTrailing _ ih =>
      rw [List.cons_append, List.cons_append, decodeText_step (by decide) escapes,
        decodeText_step (by simp) numbers, List.append_assoc, decodeText_unit digit]
      simp [takeUnit, notLeading, notTrailing, ih]
  | @pair high low _ _ leading trailing first second isLeads isTrails _ ih =>
      have apart : isTrailing leading = false := not_trailing_of_leading isLeads
      have goesOn : (Place.leading leading).step backslash = .ok ([], .leadingEscape leading) := rfl
      have numbersToo : (Place.leadingEscape leading).step 0x75 =
          .ok ([], .digits 4 (some 0) (some leading)) := rfl
      simp only [List.cons_append, List.append_assoc]
      rw [decodeText_step (by decide) escapes, decodeText_step (by simp) numbers, decodeText_unit first]
      simp only [takeUnit, apart, isLeads, if_true, Bool.false_eq_true, if_false]
      rw [decodeText_step (by simp) goesOn, decodeText_step (by simp) numbersToo, decodeText_unit second]
      simp [takeUnit, isTrails, ih]

theorem Body.append_plain {bytes : Bytes} (plain : ∀ b ∈ bytes, Plain b) (body : Body rest) :
    Body (bytes ++ rest) := by
  induction bytes with
  | nil => exact body
  | cons b bytes ih =>
      obtain ⟨⟨notQuote, notEscape, visible⟩, others⟩ := List.forall_mem_cons.mp plain
      exact .plain notQuote notEscape visible (ih others)

/-- Whatever spells characters may stand in a string. -/
theorem Spelled.isBody (spelled : Spelled body cs) : Body body := by
  induction spelled with
  | nil => exact .nil
  | plain notQuote notEscape visible _ ih => exact ih.append_plain (plain_utf8 notQuote notEscape visible)
  | escape known _ ih => exact .escape (by rw [known]; rfl) ih
  | unit digit _ _ _ ih => exact .unit digit ih
  | pair first second _ _ _ ih => exact .unit first (.unit second ih)

theorem readText_spelled (spelled : Spelled body cs) :
    readText (body ++ quoteMark :: rest) = .ok (String.ofList cs, rest) := by
  rw [readText, decodeText_spelled spelled]
  simp [bind, Except.bind, Bytes.toString?_utf8]

/-- A string spells nothing else than it spells. -/
theorem Spelled.unique {others : List Char} (spelled : Spelled body cs) (spelledToo : Spelled body others) :
    cs = others := by
  have read : readText (body ++ [quoteMark]) = .ok (String.ofList cs, []) := readText_spelled spelled
  rw [readText_spelled spelledToo, Except.ok.injEq, Prod.mk.injEq] at read
  exact String.ofList_inj.mp read.1.symm

end NetSwitch.Json
