import NetSwitch.Proofs.Json.Grammar

/-! What is skipped is a value.

A reader that skips knows where it stands and which brackets are open, and nothing else.  `Remains`
says what the bytes are that bring it from there to the end of the value.  Each byte that it takes
is the first of such bytes if those that it leaves are.
-/

namespace NetSwitch.Json

variable {b : UInt8} {bytes own rest tail text : Bytes} {stack outer : List Bracket} {site : Site}

/-! ### What is left of a value -/

/-- What is left after a value within some brackets: for each of them more parts, and its end. -/
inductive Tail : List Bracket → Bytes → Prop where
  | nil : Tail [] []
  | array {trail tail : Bytes} {items : List Item} {outer : List Bracket} (blank : Blank trail)
      (values : ∀ item ∈ items, Value item.text) (rest : Tail outer tail) :
      Tail (.array :: outer)
        (trail ++ ((items.map Item.spelling).flatMap (comma :: ·) ++ closeBracket :: tail))
  | object {trail tail : Bytes} {fields : List Field} {outer : List Bracket} (blank : Blank trail)
      (keys : ∀ field ∈ fields, Body field.key) (values : ∀ field ∈ fields, Value field.value.text)
      (rest : Tail outer tail) :
      Tail (.object :: outer)
        (trail ++ ((fields.map Field.spelling).flatMap (comma :: ·) ++ closeBrace :: tail))

/-- A value, and what is left after it. -/
inductive Starts (stack : List Bracket) : Bytes → Prop where
  | mk {lead text tail : Bytes} (blank : Blank lead) (value : Value text) (rest : Tail stack tail) :
      Starts stack (lead ++ (text ++ tail))

/-- The value of a member, and what is left after it. -/
inductive Separated (stack : List Bracket) : Bytes → Prop where
  | mk {gap more : Bytes} (blank : Blank gap) (starts : Starts stack more) :
      Separated stack (gap ++ colon :: more)

/-- A member, and what is left after it. -/
inductive Keyed (stack : List Bracket) : Bytes → Prop where
  | mk {lead key more : Bytes} (blank : Blank lead) (body : Body key) (separated : Separated stack more) :
      Keyed stack (lead ++ (quoted key ++ more))

/-- What finishes a string, a word or a number from a place within it. -/
inductive Site.Finishes : Site → Bytes → Prop where
  | text {isKey : Bool} {body : Bytes} (isBody : Body body) : Finishes (.text isKey) (body ++ [quoteMark])
  | escape {isKey : Bool} {body : Bytes} (isBody : Body (backslash :: body)) :
      Finishes (.escape isKey) (body ++ [quoteMark])
  | digits {isKey : Bool} {missing : Nat} {digits body : Bytes} (length : digits.length = missing + 1)
      (digit : ∀ d ∈ digits, (hexDigit? d).isSome = true) (isBody : Body body) :
      Finishes (.digits isKey (missing + 1) true) (digits ++ body ++ [quoteMark])
  | word {word : Bytes} : Finishes (.word word) word
  | sign {whole fraction exponent : Bytes} (wholes : Whole whole) (fractions : Fraction fraction)
      (exponents : Exponent exponent) : Finishes .sign (whole ++ (fraction ++ exponent))
  | zero {fraction exponent : Bytes} (fractions : Fraction fraction) (exponents : Exponent exponent) :
      Finishes .zero (fraction ++ exponent)
  | whole {digits fraction exponent : Bytes} (digit : ∀ d ∈ digits, isDigit d = true)
      (fractions : Fraction fraction) (exponents : Exponent exponent) :
      Finishes .whole (digits ++ (fraction ++ exponent))
  | point {digits exponent : Bytes} (digit : Digits digits) (exponents : Exponent exponent) :
      Finishes .point (digits ++ exponent)
  | fraction {digits exponent : Bytes} (digit : ∀ d ∈ digits, isDigit d = true)
      (exponents : Exponent exponent) : Finishes .fraction (digits ++ exponent)
  | exponentMark {sign digits : Bytes} (signs : sign = [] ∨ sign = [plus] ∨ sign = [minus])
      (digit : Digits digits) : Finishes .exponentMark (sign ++ digits)
  | exponentSign {digits : Bytes} (digit : Digits digits) : Finishes .exponentSign digits
  | exponent {digits : Bytes} (digit : ∀ d ∈ digits, isDigit d = true) : Finishes .exponent digits

/-- Whether a place is within a key. -/
def Site.inKey : Site → Bool
  | .text isKey | .escape isKey | .digits isKey _ _ => isKey
  | _ => false

/-- What comes after a string, a word or a number. -/
def Site.Follows (site : Site) (stack : List Bracket) (bytes : Bytes) : Prop :=
  if site.inKey then Separated stack bytes else Tail stack bytes

/-- What brings a reader that skips to the end of the value. -/
def Site.Remains : Site → List Bracket → Bytes → Prop
  | .value, stack, bytes => Starts stack bytes
  | .firstItem, stack, bytes => Starts stack bytes ∨
      ∃ blanks tail, Blank blanks ∧ Tail stack.tail tail ∧ bytes = blanks ++ closeBracket :: tail
  | .firstKey, stack, bytes => Keyed stack bytes ∨
      ∃ blanks tail, Blank blanks ∧ Tail stack.tail tail ∧ bytes = blanks ++ closeBrace :: tail
  | .key, stack, bytes => Keyed stack bytes
  | .colon, stack, bytes => Separated stack bytes
  | .after, stack, bytes => Tail stack bytes
  | site, stack, bytes => ∃ own tail, site.Finishes own ∧ site.Follows stack tail ∧ bytes = own ++ tail

/-- The bytes from one on that a move takes, if what comes after the move is what remains. -/
def Move.Takes (b : UInt8) : Move → Bytes → Prop
  | .go next brackets, bytes => ∃ more, next.Remains brackets more ∧ bytes = b :: more
  | .done, bytes => bytes = [b]
  | .doneBefore, bytes => bytes = []
  | .fail, _ => False

/-! ### After a value -/

theorem Tail.of_complete (takes : (complete outer).Takes b bytes) :
    ∃ tail, Tail outer tail ∧ bytes = b :: tail := by
  cases outer with
  | nil => exact ⟨[], .nil, takes⟩
  | cons bracket outer => exact takes

theorem Blank.cons {blanks : Bytes} (first : isBlank b = true) (blank : Blank blanks) : Blank (b :: blanks) :=
  List.forall_mem_cons.mpr ⟨first, blank⟩

theorem Tail.blank (blank : isBlank b = true) (inside : stack ≠ []) (tail : Tail stack bytes) :
    Tail stack (b :: bytes) := by
  cases tail with
  | nil => contradiction
  | array blanks values rest => exact .array (.cons blank blanks) values rest
  | object blanks keys values rest => exact .object (.cons blank blanks) keys values rest

theorem Tail.item (starts : Starts (.array :: outer) bytes) : Tail (.array :: outer) (comma :: bytes) := by
  obtain @⟨lead, text, _, blank, value, rest⟩ := starts
  cases rest with
  | @array trail tail items _ after values rest =>
      have more := @Tail.array [] _ (⟨lead, text, trail, blank, after⟩ :: items) _ nofun
        (List.forall_mem_cons.mpr ⟨value, values⟩) rest
      simpa [Item.spelling] using more

theorem Tail.field (keyed : Keyed (.object :: outer) bytes) : Tail (.object :: outer) (comma :: bytes) := by
  obtain @⟨lead, key, _, blank, body, separated⟩ := keyed
  obtain @⟨gap, _, gapBlank, @⟨before, text, _, beforeBlank, value, rest⟩⟩ := separated
  cases rest with
  | @object trail tail fields _ after keys values rest =>
      have more := @Tail.object [] _
        (⟨lead, key, gap, ⟨before, text, trail, beforeBlank, after⟩, blank, gapBlank⟩ :: fields) _ nofun
        (List.forall_mem_cons.mpr ⟨body, keys⟩) (List.forall_mem_cons.mpr ⟨value, values⟩) rest
      simpa [Field.spelling, Item.spelling] using more

theorem Tail.of_afterValue (takes : (afterValue stack b).Takes b bytes) : Tail stack bytes := by
  match stack with
  | [] =>
      obtain rfl : bytes = [] := takes
      exact .nil
  | .array :: outer =>
      simp only [afterValue] at takes
      split at takes
      case isTrue blank =>
        obtain ⟨more, tail, rfl⟩ := takes
        exact tail.blank blank (by simp)
      split at takes
      case isTrue separates =>
        obtain ⟨more, starts, rfl⟩ := takes
        exact separates ▸ .item starts
      split at takes
      case isTrue closes =>
        obtain ⟨tail, rest, rfl⟩ := Tail.of_complete takes
        exact closes ▸ @Tail.array [] _ [] _ nofun nofun rest
      case isFalse => cases takes
  | .object :: outer =>
      simp only [afterValue] at takes
      split at takes
      case isTrue blank =>
        obtain ⟨more, tail, rfl⟩ := takes
        exact tail.blank blank (by simp)
      split at takes
      case isTrue separates =>
        obtain ⟨more, keyed, rfl⟩ := takes
        exact separates ▸ .field keyed
      split at takes
      case isTrue closes =>
        obtain ⟨tail, rest, rfl⟩ := Tail.of_complete takes
        exact closes ▸ @Tail.object [] _ [] _ nofun nofun nofun rest
      case isFalse => cases takes

/-! ### A value -/

theorem Starts.blank (blank : isBlank b = true) (starts : Starts stack bytes) :
    Starts stack (b :: bytes) := by
  obtain ⟨blanks, value, rest⟩ := starts
  exact .mk (.cons blank blanks) value rest

theorem Starts.of_value (value : Value text) (rest : Tail stack tail) : Starts stack (text ++ tail) :=
  @Starts.mk stack [] _ _ nofun value rest

theorem Starts.array (remains : Site.firstItem.Remains (.array :: stack) bytes) :
    Starts stack (openBracket :: bytes) := by
  rcases remains with @⟨lead, text, _, blank, value, rest⟩ | ⟨blanks, tail, blank, rest, rfl⟩
  · cases rest with
    | @array trail tail items _ after values rest =>
        have whole := @Value.array [] (⟨lead, text, trail, blank, after⟩ :: items) nofun
          (List.forall_mem_cons.mpr ⟨value, values⟩)
        simpa [arrayText, commas_cons, Item.spelling] using Starts.of_value whole rest
  · have whole := @Value.array _ [] blank nofun
    simpa [arrayText, commas] using Starts.of_value whole rest

theorem Starts.object (remains : Site.firstKey.Remains (.object :: stack) bytes) :
    Starts stack (openBrace :: bytes) := by
  rcases remains with @⟨lead, key, _, blank, body, separated⟩ | ⟨blanks, tail, blank, rest, rfl⟩
  · obtain @⟨gap, _, gapBlank, @⟨before, text, _, beforeBlank, value, rest⟩⟩ := separated
    cases rest with
    | @object trail tail fields _ after keys values rest =>
        have whole := @Value.object []
          (⟨lead, key, gap, ⟨before, text, trail, beforeBlank, after⟩, blank, gapBlank⟩ :: fields) nofun
          (List.forall_mem_cons.mpr ⟨body, keys⟩) (List.forall_mem_cons.mpr ⟨value, values⟩)
        simpa [objectText, commas_cons, Field.spelling, Item.spelling] using Starts.of_value whole rest
  · have whole := @Value.object _ [] blank nofun nofun
    simpa [objectText, commas] using Starts.of_value whole rest

theorem Site.Finishes.value_minus (finishes : Site.sign.Finishes own) : Value (minus :: own) := by
  cases finishes with
  | sign wholes fractions exponents =>
      exact .number (@Number.mk [minus] _ _ _ (.inr rfl) wholes fractions exponents)

theorem Site.Finishes.value_zero (finishes : Site.zero.Finishes own) : Value (0x30 :: own) := by
  cases finishes with
  | zero fractions exponents => exact .number (@Number.mk [] _ _ _ (.inl rfl) .zero fractions exponents)

theorem Site.Finishes.value_digit (finishes : Site.whole.Finishes own) (digit : isDigit b = true)
    (notZero : b ≠ 0x30) : Value (b :: own) := by
  cases finishes with
  | whole others fractions exponents =>
      exact .number (@Number.mk [] _ _ _ (.inl rfl) (.digits digit notZero others) fractions exponents)

theorem Site.Finishes.value_text (finishes : (Site.text false).Finishes own) : Value (quoteMark :: own) := by
  cases finishes with
  | text isBody => exact .string isBody

theorem Site.Finishes.value_word {word : Bytes} (finishes : (Site.word word).Finishes own)
    (starts : wordAfter? b = some word) : Value (b :: own) := by
  cases finishes
  unfold wordAfter? at starts
  repeat'
    split at starts
    case isTrue same =>
      cases starts
      subst same
      constructor
  cases starts

theorem Starts.of_startValue (takes : (startValue stack b).Takes b bytes) : Starts stack bytes := by
  unfold startValue at takes
  split at takes
  case isTrue blank =>
    obtain ⟨more, starts, rfl⟩ := takes
    exact Starts.blank blank starts
  split at takes
  case isTrue isQuote =>
    obtain ⟨_, ⟨own, tail, finishes, follows, rfl⟩, rfl⟩ := takes
    exact isQuote ▸ .of_value finishes.value_text follows
  split at takes
  case isTrue opens =>
    obtain ⟨more, remains, rfl⟩ := takes
    exact opens ▸ .array remains
  split at takes
  case isTrue opens =>
    obtain ⟨more, remains, rfl⟩ := takes
    exact opens ▸ .object remains
  split at takes
  case isTrue isMinus =>
    obtain ⟨_, ⟨own, tail, finishes, follows, rfl⟩, rfl⟩ := takes
    exact isMinus ▸ .of_value finishes.value_minus follows
  split at takes
  case isTrue isZero =>
    obtain ⟨_, ⟨own, tail, finishes, follows, rfl⟩, rfl⟩ := takes
    exact isZero ▸ .of_value finishes.value_zero follows
  case isFalse notZero =>
  split at takes
  case isTrue digit =>
    obtain ⟨_, ⟨own, tail, finishes, follows, rfl⟩, rfl⟩ := takes
    exact .of_value (finishes.value_digit digit notZero) follows
  split at takes
  case h_1 word starts =>
    obtain ⟨_, ⟨own, tail, finishes, follows, rfl⟩, rfl⟩ := takes
    exact .of_value (finishes.value_word starts) follows
  case h_2 => cases takes

/-! ### Within a number -/

theorem takes_afterFraction
    (takes : (if isExponentMark b then Move.go .exponentMark stack else afterValue stack b).Takes b bytes) :
    ∃ exponent tail, Exponent exponent ∧ Tail stack tail ∧ bytes = exponent ++ tail := by
  split at takes
  case isTrue marks =>
    obtain ⟨_, ⟨own, tail, finishes, rest, rfl⟩, rfl⟩ := takes
    cases finishes with
    | exponentMark signs digit => exact ⟨_, tail, .digits marks signs digit, rest, rfl⟩
  case isFalse => exact ⟨[], bytes, .none, .of_afterValue takes, rfl⟩

theorem takes_afterWhole (takes : (afterWhole stack b).Takes b bytes) :
    ∃ fraction exponent tail, Fraction fraction ∧ Exponent exponent ∧ Tail stack tail ∧
      bytes = fraction ++ exponent ++ tail := by
  unfold afterWhole at takes
  split at takes
  case isTrue isPoint =>
    obtain ⟨_, ⟨own, tail, finishes, rest, rfl⟩, rfl⟩ := takes
    cases finishes with
    | @point digits exponent digit exponents =>
        exact ⟨_, exponent, tail, .digits digit, exponents, rest, by simp [isPoint]⟩
  case isFalse =>
    obtain ⟨exponent, tail, exponents, rest, rfl⟩ := takes_afterFraction takes
    exact ⟨[], exponent, tail, .none, exponents, rest, rfl⟩

theorem Digits.of_exponent (digit : isDigit b = true) (finishes : Site.exponent.Finishes own) :
    Digits (b :: own) := by
  cases finishes with
  | exponent others => exact ⟨List.cons_ne_nil _ _, List.forall_mem_cons.mpr ⟨digit, others⟩⟩

/-- Within a number come digits, and then whatever may follow them. -/
theorem Site.remains_in_number (takes : (site.move stack b).Takes b bytes)
    (inNumber : site ∈ [.sign, .zero, .whole, .point, .fraction, .exponentMark, .exponentSign, .exponent]) :
    site.Remains stack bytes := by
  cases site with
  | sign =>
      rw [Site.move] at takes
      split at takes
      case isTrue isZero =>
        obtain ⟨_, ⟨own, tail, finishes, rest, rfl⟩, rfl⟩ := takes
        cases finishes with
        | zero fractions exponents => exact ⟨_, tail, .sign .zero fractions exponents, rest, isZero ▸ rfl⟩
      case isFalse notZero =>
        split at takes
        case isTrue digit =>
          obtain ⟨_, ⟨own, tail, finishes, rest, rfl⟩, rfl⟩ := takes
          cases finishes with
          | whole others fractions exponents =>
              exact ⟨_, tail, .sign (.digits digit notZero others) fractions exponents, rest, rfl⟩
        case isFalse => cases takes
  | zero =>
      rw [Site.move] at takes
      split at takes
      case isTrue => cases takes
      case isFalse =>
        obtain ⟨fraction, exponent, tail, fractions, exponents, rest, rfl⟩ := takes_afterWhole takes
        exact ⟨_, tail, .zero fractions exponents, rest, rfl⟩
  | whole =>
      rw [Site.move] at takes
      split at takes
      case isTrue digit =>
        obtain ⟨_, ⟨own, tail, finishes, rest, rfl⟩, rfl⟩ := takes
        cases finishes with
        | whole others fractions exponents =>
            exact ⟨_, tail, .whole (List.forall_mem_cons.mpr ⟨digit, others⟩) fractions exponents, rest, rfl⟩
      case isFalse =>
        obtain ⟨fraction, exponent, tail, fractions, exponents, rest, rfl⟩ := takes_afterWhole takes
        exact ⟨_, tail, @Finishes.whole [] _ _ nofun fractions exponents, rest, rfl⟩
  | point =>
      rw [Site.move] at takes
      split at takes
      case isTrue digit =>
        obtain ⟨_, ⟨own, tail, finishes, rest, rfl⟩, rfl⟩ := takes
        cases finishes with
        | fraction others exponents =>
            have digits : Digits (b :: _) := ⟨List.cons_ne_nil _ _, List.forall_mem_cons.mpr ⟨digit, others⟩⟩
            exact ⟨_, tail, .point digits exponents, rest, rfl⟩
      case isFalse => cases takes
  | fraction =>
      rw [Site.move] at takes
      split at takes
      case isTrue digit =>
        obtain ⟨_, ⟨own, tail, finishes, rest, rfl⟩, rfl⟩ := takes
        cases finishes with
        | fraction others exponents =>
            exact ⟨_, tail, .fraction (List.forall_mem_cons.mpr ⟨digit, others⟩) exponents, rest, rfl⟩
      case isFalse =>
        obtain ⟨exponent, tail, exponents, rest, rfl⟩ := takes_afterFraction takes
        exact ⟨_, tail, @Finishes.fraction [] _ nofun exponents, rest, rfl⟩
  | exponentMark =>
      rw [Site.move] at takes
      split at takes
      case isTrue digit =>
        obtain ⟨_, ⟨own, tail, finishes, rest, rfl⟩, rfl⟩ := takes
        exact ⟨_, tail, @Finishes.exponentMark [] _ (.inl rfl) (.of_exponent digit finishes), rest, rfl⟩
      case isFalse =>
        split at takes
        case isTrue signs =>
          obtain ⟨_, ⟨own, tail, finishes, rest, rfl⟩, rfl⟩ := takes
          cases finishes with
          | exponentSign digit =>
              exact ⟨_, tail, @Finishes.exponentMark [b] _ (.inr (by simpa using signs)) digit, rest, rfl⟩
        case isFalse => cases takes
  | exponentSign =>
      rw [Site.move] at takes
      split at takes
      case isTrue digit =>
        obtain ⟨_, ⟨own, tail, finishes, rest, rfl⟩, rfl⟩ := takes
        exact ⟨_, tail, .exponentSign (.of_exponent digit finishes), rest, rfl⟩
      case isFalse => cases takes
  | exponent =>
      rw [Site.move] at takes
      split at takes
      case isTrue digit =>
        obtain ⟨_, ⟨own, tail, finishes, rest, rfl⟩, rfl⟩ := takes
        exact ⟨_, tail, .exponent (Digits.of_exponent digit finishes).2, rest, rfl⟩
      case isFalse => exact ⟨[], bytes, .exponent nofun, .of_afterValue takes, rfl⟩
  | _ => simp at inNumber

/-! ### Within a string or a word -/

theorem Body.of_digits {digits body : Bytes} (length : digits.length = 4)
    (digit : ∀ d ∈ digits, (hexDigit? d).isSome = true) (isBody : Body body) :
    Body (backslash :: 0x75 :: (digits ++ body)) := by
  obtain ⟨a, b, c, d, rfl⟩ : ∃ a b c d, digits = [a, b, c, d] := by
    match digits, length with
    | [a, b, c, d], _ => exact ⟨a, b, c, d, rfl⟩
  simp only [List.forall_mem_cons, Option.isSome_iff_exists] at digit
  obtain ⟨⟨i, first⟩, ⟨j, second⟩, ⟨k, third⟩, ⟨l, fourth⟩, -⟩ := digit
  exact .unit (.mk first second third fourth) isBody

theorem Site.remains_in_text {isKey : Bool} (takes : ((Site.text isKey).move stack b).Takes b bytes) :
    (Site.text isKey).Remains stack bytes := by
  rw [Site.move] at takes
  split at takes
  case isTrue isQuote =>
    subst isQuote
    cases isKey with
    | true =>
        obtain ⟨more, separated, rfl⟩ := takes
        exact ⟨_, more, .text .nil, separated, rfl⟩
    | false =>
        obtain ⟨tail, rest, rfl⟩ := Tail.of_complete takes
        exact ⟨_, tail, .text .nil, rest, rfl⟩
  case isFalse notQuote =>
  split at takes
  case isTrue escapes =>
    obtain ⟨_, ⟨own, tail, finishes, follows, rfl⟩, rfl⟩ := takes
    cases finishes with
    | escape isBody => exact ⟨_, tail, .text isBody, follows, by rw [escapes]; rfl⟩
  case isFalse notEscape =>
  split at takes
  case isTrue => cases takes
  case isFalse visible =>
    obtain ⟨_, ⟨own, tail, finishes, follows, rfl⟩, rfl⟩ := takes
    cases finishes with
    | text isBody => exact ⟨_, tail, .text (.plain notQuote notEscape visible isBody), follows, rfl⟩

theorem Site.remains_in_escape {isKey : Bool} (takes : ((Site.escape isKey).move stack b).Takes b bytes) :
    (Site.escape isKey).Remains stack bytes := by
  rw [Site.move] at takes
  split at takes
  case isTrue numbers =>
    obtain ⟨_, ⟨own, tail, finishes, follows, rfl⟩, rfl⟩ := takes
    cases finishes with
    | digits length digit isBody =>
        exact ⟨_, tail, .escape (.of_digits length digit isBody), follows, by rw [numbers]; rfl⟩
  case isFalse =>
  split at takes
  case isTrue known =>
    obtain ⟨_, ⟨own, tail, finishes, follows, rfl⟩, rfl⟩ := takes
    cases finishes with
    | text isBody => exact ⟨_, tail, .escape (.escape known isBody), follows, rfl⟩
  case isFalse => cases takes

theorem Site.remains_in_digits {isKey good : Bool} {missing : Nat}
    (takes : ((Site.digits isKey missing good).move stack b).Takes b bytes) :
    (Site.digits isKey missing good).Remains stack bytes := by
  rw [Site.move] at takes
  split at takes
  case isTrue last =>
    subst last
    split at takes
    case isTrue both =>
      obtain ⟨rfl, digit⟩ := Bool.and_eq_true_iff.mp both
      obtain ⟨_, ⟨own, tail, finishes, follows, rfl⟩, rfl⟩ := takes
      cases finishes with
      | text isBody =>
          have own := @Finishes.digits isKey 0 [b] _ rfl (List.forall_mem_singleton.mpr digit) isBody
          exact ⟨_, tail, own, follows, rfl⟩
    case isFalse => cases takes
  case isFalse =>
    generalize fewer : missing - 1 = others at takes
    generalize stays : (good && (hexDigit? b).isSome) = still at takes
    obtain ⟨_, ⟨own, tail, finishes, follows, rfl⟩, rfl⟩ := takes
    cases finishes with
    | @digits _ others digits body length digit isBody =>
        obtain ⟨rfl, first⟩ := Bool.and_eq_true_iff.mp stays
        obtain rfl : missing = others + 1 + 1 := by omega
        exact ⟨_, tail, @Finishes.digits _ _ (b :: digits) _ (by simp [length])
          (List.forall_mem_cons.mpr ⟨first, digit⟩) isBody, follows, rfl⟩

theorem Site.remains_in_word {word : Bytes} (takes : ((Site.word word).move stack b).Takes b bytes) :
    (Site.word word).Remains stack bytes := by
  match word with
  | [] => cases takes
  | [last] =>
      rw [Site.move] at takes
      split at takes
      case isTrue same =>
        obtain ⟨tail, rest, rfl⟩ := Tail.of_complete takes
        exact ⟨_, tail, .word, rest, same ▸ rfl⟩
      case isFalse => cases takes
  | next :: other :: word =>
      rw [Site.move] at takes
      split at takes
      case isTrue same =>
        obtain ⟨_, ⟨own, tail, finishes, rest, rfl⟩, rfl⟩ := takes
        cases finishes
        exact ⟨_, tail, .word, rest, same ▸ rfl⟩
      case isFalse => cases takes
      case x => simp

/-! ### Within an array or an object -/

theorem Keyed.blank (blank : isBlank b = true) (keyed : Keyed stack bytes) : Keyed stack (b :: bytes) := by
  obtain ⟨blanks, body, separated⟩ := keyed
  exact .mk (.cons blank blanks) body separated

theorem Keyed.of_text (remains : (Site.text true).Remains stack bytes) :
    Keyed stack (quoteMark :: bytes) := by
  obtain ⟨own, more, finishes, separated, rfl⟩ := remains
  cases finishes with
  | text isBody => exact @Keyed.mk stack [] _ _ nofun isBody separated

theorem Site.remains_in_array (takes : (Site.firstItem.move stack b).Takes b bytes) :
    Site.firstItem.Remains stack bytes := by
  rw [Site.move] at takes
  split at takes
  case isTrue blank =>
    obtain ⟨_, starts | ⟨blanks, tail, others, rest, rfl⟩, rfl⟩ := takes
    · exact .inl (.blank blank starts)
    · exact .inr ⟨b :: blanks, tail, .cons blank others, rest, rfl⟩
  case isFalse =>
  split at takes
  case isTrue closes =>
    obtain ⟨tail, rest, rfl⟩ := Tail.of_complete takes
    exact .inr ⟨[], tail, nofun, rest, closes ▸ rfl⟩
  case isFalse => exact .inl (.of_startValue takes)

theorem Site.remains_in_object (takes : (Site.firstKey.move stack b).Takes b bytes) :
    Site.firstKey.Remains stack bytes := by
  rw [Site.move] at takes
  split at takes
  case isTrue blank =>
    obtain ⟨_, keyed | ⟨blanks, tail, others, rest, rfl⟩, rfl⟩ := takes
    · exact .inl (.blank blank keyed)
    · exact .inr ⟨b :: blanks, tail, .cons blank others, rest, rfl⟩
  case isFalse =>
  split at takes
  case isTrue closes =>
    obtain ⟨tail, rest, rfl⟩ := Tail.of_complete takes
    exact .inr ⟨[], tail, nofun, rest, closes ▸ rfl⟩
  case isFalse =>
  split at takes
  case isTrue isQuote =>
    obtain ⟨more, remains, rfl⟩ := takes
    exact .inl (isQuote ▸ .of_text remains)
  case isFalse => cases takes

theorem Site.remains_at_key (takes : (Site.key.move stack b).Takes b bytes) :
    Site.key.Remains stack bytes := by
  rw [Site.move] at takes
  split at takes
  case isTrue blank =>
    obtain ⟨more, keyed, rfl⟩ := takes
    exact Keyed.blank blank keyed
  case isFalse =>
  split at takes
  case isTrue isQuote =>
    obtain ⟨more, remains, rfl⟩ := takes
    exact isQuote ▸ Keyed.of_text remains
  case isFalse => cases takes

theorem Site.remains_at_colon (takes : (Site.colon.move stack b).Takes b bytes) :
    Site.colon.Remains stack bytes := by
  rw [Site.move] at takes
  split at takes
  case isTrue blank =>
    obtain ⟨_, ⟨blanks, starts⟩, rfl⟩ := takes
    exact Separated.mk (.cons blank blanks) starts
  case isFalse =>
  split at takes
  case isTrue separates =>
    obtain ⟨more, starts, rfl⟩ := takes
    exact separates ▸ @Separated.mk stack [] _ nofun starts
  case isFalse => cases takes

/-! ### All of a value -/

/-- Whatever a byte means at a place, it begins what remains there if what it leaves remains after it. -/
theorem Site.remains_of_takes (takes : (site.move stack b).Takes b bytes) : site.Remains stack bytes := by
  cases site with
  | value => exact .of_startValue takes
  | firstItem => exact remains_in_array takes
  | firstKey => exact remains_in_object takes
  | key => exact remains_at_key takes
  | colon => exact remains_at_colon takes
  | after => exact .of_afterValue takes
  | text isKey => exact remains_in_text takes
  | escape isKey => exact remains_in_escape takes
  | digits isKey missing good => exact remains_in_digits takes
  | word word => exact remains_in_word takes
  | _ => exact remains_in_number takes (by simp)

/-- Only a number may end with the input. -/
theorem Site.remains_at_end (ends : site.atEnd stack = .ok rest) : rest = [] ∧ site.Remains stack [] := by
  have nothing (finishes : site.Finishes [])
      (ends : (if stack.isEmpty then Except.ok [] else .error .truncated) = (.ok rest : Read Bytes)) :
      rest = [] ∧ ∃ own tail, site.Finishes own ∧ Tail stack tail ∧ [] = own ++ tail := by
    split at ends
    case isTrue alone =>
      cases ends
      obtain rfl := List.isEmpty_iff.mp alone
      exact ⟨rfl, [], [], finishes, .nil, rfl⟩
    case isFalse => cases ends
  cases site with
  | zero => exact nothing (.zero .none .none) ends
  | whole => exact nothing (@Finishes.whole [] _ _ nofun .none .none) ends
  | fraction => exact nothing (@Finishes.fraction [] _ nofun .none) ends
  | exponent => exact nothing (.exponent nofun) ends
  | _ => cases ends

/-- A reader that gets to the end of a value has passed what brings it there. -/
theorem skipFrom_remains {input : Bytes} (skips : skipFrom site stack input = .ok rest) :
    ∃ bytes, site.Remains stack bytes ∧ input = bytes ++ rest := by
  induction input generalizing site stack with
  | nil =>
      obtain ⟨rfl, remains⟩ := Site.remains_at_end skips
      exact ⟨[], remains, rfl⟩
  | cons b input ih =>
      rw [skipFrom] at skips
      have step {bytes : Bytes} (takes : (site.move stack b).Takes b bytes) := Site.remains_of_takes takes
      cases moved : site.move stack b with
      | go next brackets =>
          rw [moved] at skips step
          obtain ⟨more, remains, rfl⟩ := ih skips
          exact ⟨b :: more, step ⟨more, remains, rfl⟩, rfl⟩
      | done =>
          rw [moved] at skips step
          cases skips
          exact ⟨[b], step rfl, rfl⟩
      | doneBefore =>
          rw [moved] at skips step
          cases skips
          exact ⟨[], step rfl, rfl⟩
      | fail =>
          rw [moved] at skips
          cases skips

/-- What is skipped is a value, with blanks before it. -/
theorem skipValue_ok {input : Bytes} (skips : skipValue input = .ok rest) :
    ∃ lead text, Blank lead ∧ Value text ∧ input = lead ++ (text ++ rest) := by
  obtain ⟨_, @⟨lead, text, _, blank, value, last⟩, rfl⟩ := skipFrom_remains skips
  cases last
  exact ⟨lead, text, blank, value, by simp⟩

end NetSwitch.Json
