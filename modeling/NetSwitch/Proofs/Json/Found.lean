import NetSwitch.Proofs.Json.Decoded
import NetSwitch.Proofs.Json.Reader
import NetSwitch.Proofs.Json.Skipped

/-! What is found: the bytes from which words, strings, numbers and choices are read. -/

namespace NetSwitch.Json

variable {b : UInt8} {body bytes decoded input lead rest text trail : Bytes} {n : Nat}

/-! ### Blanks, bytes and words -/

theorem skipBlanks_found (found : skipBlanks input = b :: rest) :
    ∃ lead, Blank lead ∧ input = lead ++ b :: rest := by
  refine ⟨input.takeWhile isBlank, List.all_eq_true.mp List.all_takeWhile, ?_⟩
  rw [← found]
  exact List.takeWhile_append_dropWhile.symm

theorem skipBlanks_nothing (nothing : skipBlanks input = []) : Blank input := by
  have parts : input.takeWhile isBlank ++ skipBlanks input = input := List.takeWhile_append_dropWhile
  rw [nothing, List.append_nil] at parts
  rw [← parts]
  exact List.all_eq_true.mp List.all_takeWhile

theorem expectByte_ok (expects : expectByte b input = .ok rest) :
    ∃ lead, Blank lead ∧ input = lead ++ b :: rest := by
  unfold expectByte at expects
  split at expects
  case h_1 => cases expects
  case h_2 found =>
    split at expects
    case isTrue same =>
      cases expects
      exact same ▸ skipBlanks_found found
    case isFalse => cases expects

theorem expectWord_ok {word : Bytes} (expects : expectWord word input = .ok rest) : input = word ++ rest := by
  induction word generalizing input with
  | nil =>
      cases input <;> cases expects <;> rfl
  | cons b word ih =>
      cases input with
      | nil => cases expects
      | cons c input =>
          rw [expectWord] at expects
          split at expects
          case isTrue same => rw [same, ih expects, List.cons_append]
          case isFalse => cases expects

/-! ### Strings -/

/-- What may stand between a place within a string and the quote that ends it. -/
inductive Place.Remains : Place → Bytes → Prop where
  | plain {body : Bytes} (isBody : Body body) : Remains .plain body
  | escape {body : Bytes} (isBody : Body (backslash :: body)) : Remains .escape body
  | digits {missing : Nat} {value first : Option Nat} {digits body : Bytes} (known : value.isSome = true)
      (length : digits.length = missing + 1) (digit : ∀ d ∈ digits, (hexDigit? d).isSome = true)
      (isBody : Body body) : Remains (.digits (missing + 1) value first) (digits ++ body)
  | leading {unit : Nat} {body : Bytes} (isBody : Body body) : Remains (.leading unit) body
  | leadingEscape {unit : Nat} {body : Bytes} (isBody : Body (backslash :: body)) :
      Remains (.leadingEscape unit) body

theorem takeUnit_ok {value first : Option Nat} {added : Bytes} {next : Place}
    (takes : takeUnit value first = .ok (added, next)) (remains : next.Remains body) :
    value.isSome = true ∧ Body body := by
  match value, first with
  | none, _ => cases takes
  | some value, none =>
      obtain ⟨-, ⟨-, -, rfl⟩ | ⟨-, -, rfl⟩⟩ := takeUnit_first takes <;> cases remains <;> exact ⟨rfl, ‹_›⟩
  | some value, some leading =>
      obtain ⟨-, rfl, -⟩ := takeUnit_second takes
      cases remains
      exact ⟨rfl, ‹_›⟩

theorem known_digit {value : Option Nat}
    (known : (do let high ← value; let digit ← hexDigit? b; some (high * 16 + digit)).isSome = true) :
    value.isSome = true ∧ (hexDigit? b).isSome = true := by
  cases value with
  | none => cases known
  | some high =>
      cases digit : hexDigit? b with
      | none => simp [digit] at known
      | some digit => exact ⟨rfl, rfl⟩

/-- A byte begins what remains at a place if what is left of it remains at the next. -/
theorem Place.remains_of_step {place next : Place} {added : Bytes}
    (notEnd : ¬ (place = .plain ∧ b = quoteMark)) (steps : place.step b = .ok (added, next))
    (remains : next.Remains body) : place.Remains (b :: body) := by
  cases place with
  | plain =>
      rw [Place.step] at steps
      split at steps
      case isTrue escapes =>
        cases steps
        cases remains with
        | escape isBody => exact .plain (escapes ▸ isBody)
      case isFalse notEscape =>
        split at steps
        case isTrue => cases steps
        case isFalse visible =>
          cases steps
          cases remains with
          | plain isBody => exact .plain (.plain (fun same => notEnd ⟨rfl, same⟩) notEscape visible isBody)
  | escape =>
      rw [Place.step] at steps
      split at steps
      case isTrue numbers =>
        cases steps
        cases remains with
        | digits known length digit isBody => exact .escape (numbers ▸ .of_digits length digit isBody)
      case isFalse =>
        split at steps
        case h_1 named known =>
          cases steps
          cases remains with
          | plain isBody => exact .escape (.escape (by rw [known]; rfl) isBody)
        case h_2 => cases steps
  | digits missing value first =>
      simp only [Place.step] at steps
      split at steps
      case isTrue last =>
        obtain ⟨known, isBody⟩ := takeUnit_ok steps remains
        obtain ⟨before, digit⟩ := known_digit known
        exact last ▸ @Remains.digits 0 _ _ [b] _ before rfl (List.forall_mem_singleton.mpr digit) isBody
      case isFalse =>
        -- What is missing is counted down by subtraction, which no constructor matches.
        generalize fewer : missing - 1 = others at steps
        cases steps
        cases remains with
        | @digits others _ _ digits body known length digit isBody =>
            obtain ⟨before, first⟩ := known_digit known
            obtain rfl : missing = others + 1 + 1 := by omega
            exact @Remains.digits _ _ _ (b :: digits) _ before (by simp [length])
              (List.forall_mem_cons.mpr ⟨first, digit⟩) isBody
  | leading unit =>
      rw [Place.step] at steps
      split at steps
      case isTrue escapes =>
        cases steps
        cases remains with
        | leadingEscape isBody => exact .leading (escapes ▸ isBody)
      case isFalse => cases steps
  | leadingEscape unit =>
      rw [Place.step] at steps
      split at steps
      case isTrue numbers =>
        cases steps
        cases remains with
        | digits known length digit isBody => exact .leadingEscape (numbers ▸ .of_digits length digit isBody)
      case isFalse => cases steps

theorem decodeText_ok {place : Place} (decodes : decodeText decoded place input = .ok (bytes, rest)) :
    ∃ body, place.Remains body ∧ input = body ++ quoteMark :: rest := by
  induction input generalizing decoded place with
  | nil => cases decodes
  | cons b input ih =>
      rw [decodeText] at decodes
      split at decodes
      case isTrue ends =>
        obtain ⟨rfl, rfl⟩ := ends
        cases decodes
        exact ⟨[], .plain .nil, rfl⟩
      case isFalse notEnd =>
        split at decodes
        case h_1 => cases decodes
        case h_2 steps =>
          obtain ⟨body, remains, rfl⟩ := ih decodes
          exact ⟨b :: body, Place.remains_of_step notEnd steps remains, rfl⟩

theorem readText_ok {read : String} (reads : readText input = .ok (read, rest)) :
    ∃ body, Spelled body read.toList ∧ input = body ++ quoteMark :: rest := by
  obtain ⟨⟨bytes, after⟩, decodes, keeps⟩ := bind_ok.mp reads
  obtain ⟨body, remains, rfl⟩ := decodeText_ok decodes
  cases remains with
  | plain isBody =>
      obtain ⟨rfl, spelled⟩ := readText_body isBody reads
      exact ⟨body, spelled, rfl⟩

theorem readString_ok {read : String} (reads : readString input = .ok (read, rest)) :
    ∃ lead body, Blank lead ∧ Spelled body read.toList ∧ input = lead ++ (quoted body ++ rest) := by
  unfold readString at reads
  split at reads
  case h_1 => cases reads
  case h_2 found =>
    split at reads
    case isTrue isQuote =>
      obtain ⟨lead, blank, rfl⟩ := skipBlanks_found found
      obtain ⟨body, spelled, rfl⟩ := readText_ok reads
      exact ⟨lead, body, blank, spelled, by simp [isQuote, quoted]⟩
    case isFalse => cases reads

/-! ### Numbers -/

theorem scanDigits_ok {digits : Bytes} (scans : scanDigits input = .ok (digits, rest)) :
    Digits digits ∧ input = digits ++ rest := by
  unfold scanDigits at scans
  split at scans
  case h_1 => cases scans
  case h_2 b _ =>
    split at scans
    case isTrue digit =>
      cases scans
      refine ⟨⟨?_, List.all_eq_true.mp List.all_takeWhile⟩, List.takeWhile_append_dropWhile.symm⟩
      simp [digit]
    case isFalse => cases scans

theorem scanWhole_ok {digits : Bytes} (scans : scanWhole input = .ok (digits, rest)) :
    Whole digits ∧ input = digits ++ rest := by
  obtain ⟨⟨found, after⟩, scansDigits, proper⟩ := bind_ok.mp scans
  obtain ⟨⟨some, digit⟩, rfl⟩ := scanDigits_ok scansDigits
  dsimp only at proper
  split at proper
  case isTrue => cases proper
  case isFalse notZero =>
    cases proper
    refine ⟨?_, rfl⟩
    obtain ⟨first, others, rfl⟩ := List.exists_cons_of_ne_nil some
    obtain ⟨isDigit, digit⟩ := List.forall_mem_cons.mp digit
    by_cases zero : first = 0x30
    · obtain rfl : others = [] := by simpa [zero] using notZero
      exact zero ▸ .zero
    · exact .digits isDigit zero digit

theorem scanFraction_none (scans : scanFraction input = .ok (none, rest)) : rest = input := by
  unfold scanFraction at scans
  split at scans
  case h_1 =>
    cases scans
    rfl
  case h_2 =>
    split at scans
    case isTrue =>
      obtain ⟨_, -, scans⟩ := bind_ok.mp scans
      cases scans
    case isFalse =>
      cases scans
      rfl

theorem scanExponent_none (scans : scanExponent input = .ok (none, rest)) : rest = input := by
  unfold scanExponent at scans
  split at scans
  case h_1 =>
    cases scans
    rfl
  case h_2 =>
    split at scans
    case isTrue =>
      obtain ⟨_, -, scans⟩ := bind_ok.mp scans
      cases scans
    case isFalse =>
      cases scans
      rfl

theorem scanUnsigned_whole {negative : Bool} {whole : Bytes}
    (scans : scanUnsigned negative input = .ok (⟨false, whole, none, none⟩, rest)) :
    negative = false ∧ Whole whole ∧ input = whole ++ rest := by
  obtain ⟨⟨digits, middle⟩, scansWhole, scans⟩ := bind_ok.mp scans
  obtain ⟨⟨fraction, after⟩, scansFraction, scans⟩ := bind_ok.mp scans
  obtain ⟨⟨exponent, last⟩, scansExponent, scans⟩ := bind_ok.mp scans
  cases scans
  obtain ⟨wholes, rfl⟩ := scanWhole_ok scansWhole
  obtain rfl := scanFraction_none scansFraction
  obtain rfl := scanExponent_none scansExponent
  exact ⟨rfl, wholes, rfl⟩

theorem scanNumeral_ok {whole : Bytes} (scans : scanNumeral input = .ok (⟨false, whole, none, none⟩, rest)) :
    Whole whole ∧ input = whole ++ rest := by
  unfold scanNumeral at scans
  split at scans
  case h_1 => cases scans
  case h_2 =>
    split at scans
    case isTrue =>
      obtain ⟨negative, -⟩ := scanUnsigned_whole scans
      cases negative
    case isFalse => exact (scanUnsigned_whole scans).2

theorem collect_all {significand value : Nat} {digits : Bytes}
    (collects : collect significand digits = (value, [])) :
    digits.foldl (fun value b => value * 10 + digitValue b) significand = value := by
  induction digits generalizing significand with
  | nil =>
      cases collects
      rfl
  | cons b digits ih =>
      rw [collect] at collects
      split at collects
      case isTrue => exact ih collects
      case isFalse => cases collects

theorem natural?_some {numeral : Numeral} (natural : numeral.natural? = some n) :
    ∃ whole, numeral = ⟨false, whole, none, none⟩ ∧ decimalValue whole = n := by
  unfold Numeral.natural? at natural
  split at natural
  case h_1 whole =>
    refine ⟨whole, rfl, ?_⟩
    split at natural
    case h_1 collects =>
      cases natural
      exact collect_all collects
    case h_2 => cases natural
  case h_2 => cases natural

theorem readNumber_ok (reads : readNumber input = .ok (some n, rest)) :
    ∃ whole, Whole whole ∧ decimalValue whole = n ∧ input = whole ++ rest := by
  obtain ⟨⟨numeral, after⟩, scans, reads⟩ := bind_ok.mp reads
  dsimp only at reads
  split at reads
  case h_1 natural =>
    cases reads
    obtain ⟨whole, rfl, value⟩ := natural?_some natural
    obtain ⟨wholes, rfl⟩ := scanNumeral_ok scans
    exact ⟨whole, wholes, value, rfl⟩
  case h_2 => split at reads <;> cases reads

theorem readNatural_ok {bound : Nat} {value : Fin bound}
    (reads : readNatural bound input = .ok (value, rest)) :
    ∃ lead text, Blank lead ∧ (Shape.natural bound).Spells value text ∧ input = lead ++ (text ++ rest) := by
  unfold readNatural at reads
  split at reads
  case h_1 => cases reads
  case h_2 found =>
    split at reads
    case isTrue =>
      obtain ⟨lead, blank, rfl⟩ := skipBlanks_found found
      obtain ⟨⟨number, after⟩, readsNumber, reads⟩ := bind_ok.mp reads
      dsimp only at reads
      split at reads
      case h_1 =>
        split at reads
        case isTrue =>
          cases reads
          obtain ⟨text, whole, same, spelled⟩ := readNumber_ok readsNumber
          exact ⟨lead, text, blank, ⟨whole, same⟩, by rw [spelled]⟩
        case isFalse => cases reads
      case h_2 => cases reads
    case isFalse => cases reads

/-! ### Choices -/

theorem pick_ok {names : List String} {name : String} {choice : Fin names.length}
    (picks : pick names name = .ok choice) : names.get choice = name := by
  unfold pick at picks
  split at picks
  case h_1 found =>
    cases picks
    exact (List.finIdxOf?_eq_some_iff.mp found).1
  case h_2 => cases picks

theorem readNull_ok (reads : readNull input = .ok rest) :
    ∃ lead, Blank lead ∧ input = lead ++ (nullWord ++ rest) := by
  unfold readNull at reads
  split at reads
  case h_1 => cases reads
  case h_2 found =>
    split at reads
    case isTrue first =>
      obtain ⟨lead, blank, rfl⟩ := skipBlanks_found found
      exact ⟨lead, blank, by rw [first, expectWord_ok reads]; rfl⟩
    case isFalse => cases reads

theorem readChoice_ok {names : List String} {choice : Fin names.length}
    (reads : readChoice names input = .ok (choice, rest)) :
    ∃ lead text, Blank lead ∧ (Shape.choice names).Spells choice text ∧ input = lead ++ (text ++ rest) := by
  unfold readChoice at reads
  split at reads
  case h_1 => cases reads
  case h_2 found =>
    obtain ⟨lead, blank, rfl⟩ := skipBlanks_found found
    split at reads
    case isTrue isQuote =>
      obtain ⟨⟨name, after⟩, readsName, reads⟩ := bind_ok.mp reads
      obtain ⟨picked, picks, reads⟩ := bind_ok.mp reads
      cases reads
      obtain ⟨body, spelled, rfl⟩ := readText_ok readsName
      refine ⟨lead, quoted body, blank, ⟨body, ?_, .inl rfl⟩, by simp [isQuote, quoted]⟩
      exact (pick_ok picks).symm ▸ spelled
    case isFalse =>
    split at reads
    case isTrue opens =>
      obtain ⟨⟨name, afterName⟩, readsName, reads⟩ := bind_ok.mp reads
      obtain ⟨picked, picks, reads⟩ := bind_ok.mp reads
      obtain ⟨afterColon, separates, reads⟩ := bind_ok.mp reads
      obtain ⟨afterNull, readsNull, reads⟩ := bind_ok.mp reads
      obtain ⟨last, closes, reads⟩ := bind_ok.mp reads
      cases reads
      obtain ⟨before, body, beforeBlank, spelled, rfl⟩ := readString_ok readsName
      obtain ⟨gap, gapBlank, rfl⟩ := expectByte_ok separates
      obtain ⟨inside, insideBlank, rfl⟩ := readNull_ok readsNull
      obtain ⟨trail, trailBlank, rfl⟩ := expectByte_ok closes
      let null : Item := ⟨inside, nullWord, trail, insideBlank, trailBlank⟩
      let field : Field := ⟨before, body, gap, null, beforeBlank, gapBlank⟩
      have spells : (Shape.choice names).Spells choice (objectText [] [field]) :=
        ⟨body, (pick_ok picks).symm ▸ spelled, .inr ⟨field, rfl, rfl, rfl⟩⟩
      refine ⟨lead, objectText [] [field], blank, spells, ?_⟩
      simp [opens, objectText, commas_cons, field, null, Field.spelling, Item.spelling]
    case isFalse => cases reads

end NetSwitch.Json
