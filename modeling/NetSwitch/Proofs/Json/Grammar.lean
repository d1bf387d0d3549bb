import NetSwitch.Json.Wire

/-! The grammar of JSON texts, and the texts that spell the values of a shape.

`Value` is the grammar of every JSON value.  Bytes within its strings need not spell
characters, and escaped surrogates need not come in pairs: whether a string can be decoded is
what `Spelled` says.  `Shape.Spells` says which texts a reader may find for a value of a shape:
with any blanks, members in any order, any way to write a string, and further members.
-/

namespace NetSwitch.Json

/-- Bytes that may stand around the parts of a text. -/
abbrev Blank (bytes : Bytes) : Prop :=
  ∀ b ∈ bytes, isBlank b = true

def nullWord : Bytes := [0x6E, 0x75, 0x6C, 0x6C]

def trueWord : Bytes := [0x74, 0x72, 0x75, 0x65]

def falseWord : Bytes := [0x66, 0x61, 0x6C, 0x73, 0x65]

/-! ### Strings -/

def quoted (body : Bytes) : Bytes :=
  quoteMark :: (body ++ [quoteMark])

/-- The four digits of an escape, and their value. -/
inductive Unit4 : Bytes → Nat → Prop where
  | mk {a b c d : UInt8} {i j k l : Nat} (first : hexDigit? a = some i) (second : hexDigit? b = some j)
      (third : hexDigit? c = some k) (fourth : hexDigit? d = some l) :
      Unit4 [a, b, c, d] (((i * 16 + j) * 16 + k) * 16 + l)

/-- What may stand between the quotes of a string. -/
inductive Body : Bytes → Prop where
  | nil : Body []
  | plain {b : UInt8} {rest : Bytes} (notQuote : b ≠ quoteMark) (notEscape : b ≠ backslash)
      (visible : ¬ b < 0x20) (body : Body rest) : Body (b :: rest)
  | escape {b : UInt8} {rest : Bytes} (known : (escaped? b).isSome) (body : Body rest) :
      Body (backslash :: b :: rest)
  | unit {digits rest : Bytes} {value : Nat} (digit : Unit4 digits value) (body : Body rest) :
      Body (backslash :: 0x75 :: (digits ++ rest))

/-- What stands between the quotes of a string that spells some characters. -/
inductive Spelled : Bytes → List Char → Prop where
  | nil : Spelled [] []
  | plain {c : Char} {rest : Bytes} {cs : List Char} (notQuote : c ≠ '"') (notEscape : c ≠ '\\')
      (visible : 0x20 ≤ c.toNat) (spelled : Spelled rest cs) :
      Spelled (String.utf8EncodeChar c ++ rest) (c :: cs)
  | escape {b decoded : UInt8} {rest : Bytes} {cs : List Char} (known : escaped? b = some decoded)
      (spelled : Spelled rest cs) :
      Spelled (backslash :: b :: rest) (Char.ofNat decoded.toNat :: cs)
  | unit {digits rest : Bytes} {cs : List Char} {value : Nat} (digit : Unit4 digits value)
      (notLeading : isLeading value = false) (notTrailing : isTrailing value = false)
      (spelled : Spelled rest cs) :
      Spelled (backslash :: 0x75 :: (digits ++ rest)) (Char.ofNat value :: cs)
  /-- A character beyond the sixteen bits of an escape takes two. -/
  | pair {high low rest : Bytes} {cs : List Char} {leading trailing : Nat} (first : Unit4 high leading)
      (second : Unit4 low trailing) (isLeads : isLeading leading = true)
      (isTrails : isTrailing trailing = true) (spelled : Spelled rest cs) :
      Spelled (backslash :: 0x75 :: (high ++ backslash :: 0x75 :: (low ++ rest)))
        (Char.ofNat ((leading - 0xD800) * 0x400 + (trailing - 0xDC00) + 0x10000) :: cs)

/-! ### Numbers -/

abbrev Digits (bytes : Bytes) : Prop :=
  bytes ≠ [] ∧ ∀ b ∈ bytes, isDigit b = true

/-- A whole number: a zero, or digits of which the first is none. -/
inductive Whole : Bytes → Prop where
  | zero : Whole [0x30]
  | digits {b : UInt8} {rest : Bytes} (digit : isDigit b = true) (notZero : b ≠ 0x30)
      (others : ∀ d ∈ rest, isDigit d = true) : Whole (b :: rest)

inductive Fraction : Bytes → Prop where
  | none : Fraction []
  | digits {bytes : Bytes} (digits : Digits bytes) : Fraction (Json.point :: bytes)

inductive Exponent : Bytes → Prop where
  | none : Exponent []
  | digits {mark : UInt8} {sign bytes : Bytes} (marks : isExponentMark mark = true)
      (signs : sign = [] ∨ sign = [plus] ∨ sign = [minus]) (digits : Digits bytes) :
      Exponent (mark :: (sign ++ bytes))

inductive Number : Bytes → Prop where
  | mk {sign whole fraction exponent : Bytes} (signs : sign = [] ∨ sign = [minus])
      (wholes : Whole whole) (fractions : Fraction fraction) (exponents : Exponent exponent) :
      Number (sign ++ (whole ++ (fraction ++ exponent)))

/-- What does not go on with a number. -/
def Ends (rest : Bytes) : Prop :=
  ∀ b ∈ rest.head?, isDigit b = false ∧ b ≠ Json.point ∧ isExponentMark b = false

def decimalValue (digits : Bytes) : Nat :=
  digits.foldl (fun value b => value * 10 + digitValue b) 0

/-! ### Arrays and objects -/

/-- A text with the blanks around it. -/
structure Item where
  lead : Bytes := []
  text : Bytes
  trail : Bytes := []
  lead_blank : Blank lead := by exact List.forall_mem_nil _
  trail_blank : Blank trail := by exact List.forall_mem_nil _

def Item.spelling (item : Item) : Bytes :=
  item.lead ++ (item.text ++ item.trail)

/-- A member of an object: what is between the quotes of its key, its value, and the blanks around
them. -/
structure Field where
  lead : Bytes := []
  key : Bytes
  gap : Bytes := []
  value : Item
  lead_blank : Blank lead := by exact List.forall_mem_nil _
  gap_blank : Blank gap := by exact List.forall_mem_nil _

def Field.spelling (field : Field) : Bytes :=
  field.lead ++ (quoted field.key ++ (field.gap ++ colon :: field.value.spelling))

def commas (parts : List Bytes) : Bytes :=
  [comma].intercalate parts

/-- An array of items.  The blanks in front are all there is in an empty one. -/
def arrayText (blanks : Bytes) (items : List Item) : Bytes :=
  openBracket :: (blanks ++ (commas (items.map Item.spelling) ++ [closeBracket]))

def objectText (blanks : Bytes) (fields : List Field) : Bytes :=
  openBrace :: (blanks ++ (commas (fields.map Field.spelling) ++ [closeBrace]))

/-- The JSON values. -/
inductive Value : Bytes → Prop where
  | null : Value nullWord
  | true : Value trueWord
  | false : Value falseWord
  | number {text : Bytes} (number : Number text) : Value text
  | string {body : Bytes} (spelled : Body body) : Value (quoted body)
  | array {blanks : Bytes} {items : List Item} (blank : Blank blanks)
      (values : ∀ item ∈ items, Value item.text) : Value (arrayText blanks items)
  | object {blanks : Bytes} {fields : List Field} (blank : Blank blanks)
      (keys : ∀ field ∈ fields, Body field.key) (values : ∀ field ∈ fields, Value field.value.text) :
      Value (objectText blanks fields)

/-- A JSON value that is an object. -/
structure Object (text : Bytes) : Prop where
  value : Value text
  opens : text.head? = some openBrace

/-! ### Values of a shape -/

/-- A member whose key spells a name. -/
structure Entry where
  name : String
  field : Field
  spelled : Spelled field.key name.toList

def Entry.text (entry : Entry) : Bytes :=
  entry.field.value.text

/-- A value is given by the only one of some entries, or stands for there being none. -/
def Given (spells : α → Bytes → Prop) (absent? : Option α) (value : α) : List Entry → Prop
  | [] => absent? = some value
  | [entry] => spells value entry.text
  | _ :: _ :: _ => False

/-- Lists of which each two elements at the same place are related. -/
inductive Aligned (related : α → β → Prop) : List α → List β → Prop where
  | nil : Aligned related [] []
  | cons {a : α} {b : β} {as : List α} {bs : List β} (first : related a b)
      (rest : Aligned related as bs) : Aligned related (a :: as) (b :: bs)

mutual

/-- The texts that spell a value of a shape. -/
def Shape.Spells : (shape : Shape) → shape.Value → Bytes → Prop
  | .text, value, text => ∃ body, text = quoted body ∧ Spelled body value.toList
  | .natural _, n, text => Whole text ∧ decimalValue text = n.val
  | .choice names, choice, text => ∃ body, Spelled body (names.get choice).toList ∧
      (text = quoted body ∨ ∃ field : Field, field.key = body ∧ field.value.text = nullWord ∧
        text = objectText [] [field])
  | .option _, none, text => text = nullWord
  | .option shape, some value, text => shape.Spells value text
  | .list item, values, text => ∃ blanks items, Blank blanks ∧ text = arrayText blanks items ∧
      Aligned (fun value (found : Item) => item.Spells value found.text) values items
  | .record members, values, text =>
      (∃ blanks items, Blank blanks ∧ text = arrayText blanks items ∧ members.InOrder values items) ∨
      ∃ blanks entries, Blank blanks ∧ text = objectText blanks (entries.map Entry.field) ∧
        members.Among values entries

/-- Items that spell the members of a record, one after the other. -/
def Members.InOrder : (members : Members) → members.Value → List Item → Prop
  | .nil, (), items => items = []
  | .cons _ shape rest, (value, values), items => ∃ item others, items = item :: others ∧
      shape.Spells value item.text ∧ rest.InOrder values others

/-- Entries among which the members of a record are found: each is there once, or it is one that
may be absent and is.  The entries that are none of them have any values. -/
def Members.Among : (members : Members) → members.Value → List Entry → Prop
  | .nil, (), entries => ∀ entry ∈ entries, Value entry.text
  | .cons name shape rest, (value, values), entries =>
      Given (fun value text => shape.Spells value text) shape.absent? value
          (entries.filter (·.name = name)) ∧
        rest.Among values (entries.filter (·.name ≠ name))

end

/-! ### First bytes, and what may follow -/

variable {b c : UInt8} {around text rest : Bytes}

theorem ne_of_digit (digit : isDigit b = true) (other : isDigit c = false) : b ≠ c := by
  rintro rfl
  rw [digit] at other
  cases other

theorem isBlank_of_digit (digit : isDigit b = true) : isBlank b = false := by
  simp only [isBlank, Bool.or_eq_false_iff, decide_eq_false_iff_not]
  exact ⟨⟨⟨ne_of_digit digit rfl, ne_of_digit digit rfl⟩, ne_of_digit digit rfl⟩, ne_of_digit digit rfl⟩

theorem Whole.starts (whole : Whole text) : ∃ d others, text = d :: others ∧ isDigit d = true := by
  cases whole with
  | zero => exact ⟨_, _, rfl, rfl⟩
  | digits digit => exact ⟨_, _, rfl, digit⟩

/-- Nothing else starts with a blank, or with the end of an array. -/
theorem Value.starts (value : Value text) :
    ∃ b others, text = b :: others ∧ isBlank b = Bool.false ∧ b ≠ closeBracket := by
  cases value with
  | number number =>
      obtain ⟨rfl | rfl, wholes, -, -⟩ := number
      · obtain ⟨d, others, rfl, digit⟩ := wholes.starts
        exact ⟨d, _, rfl, isBlank_of_digit digit, ne_of_digit digit rfl⟩
      · exact ⟨minus, _, rfl, rfl, by decide⟩
  | _ => exact ⟨_, _, rfl, rfl, by decide⟩

theorem Ends.of_first (noDigit : isDigit b = false) (notPoint : b ≠ Json.point)
    (noMark : isExponentMark b = false) : Ends (b :: rest) := by
  rintro _ ⟨⟩
  exact ⟨noDigit, notPoint, noMark⟩

theorem Ends.comma : Ends (comma :: rest) :=
  .of_first rfl (by decide) rfl

theorem Ends.blanks (ends : Ends rest) (blank : Blank around) : Ends (around ++ rest) := by
  cases around with
  | nil => exact ends
  | cons b _ =>
      have first : ((b = 0x20 ∨ b = 0x09) ∨ b = 0x0A) ∨ b = 0x0D := by
        simpa only [isBlank, Bool.or_eq_true, decide_eq_true_eq] using (List.forall_mem_cons.mp blank).1
      rcases first with ((rfl | rfl) | rfl) | rfl <;> exact .of_first rfl (by decide) rfl

/-- After a part of an array or an object come a comma or the closing bracket. -/
theorem Ends.parts {parts : List Bytes} (close : b = closeBracket ∨ b = closeBrace) :
    Ends (parts.flatMap (Json.comma :: ·) ++ b :: rest) := by
  cases parts with
  | nil => rcases close with rfl | rfl <;> exact .of_first rfl (by decide) rfl
  | cons part parts => exact .comma

theorem intercalate_cons (separator : α) (part : List α) (parts : List (List α)) :
    [separator].intercalate (part :: parts) = part ++ parts.flatMap (separator :: ·) := by
  induction parts generalizing part with
  | nil => simp [List.intercalate]
  | cons next parts ih =>
      have split : [separator].intercalate (part :: next :: parts) =
          part ++ separator :: [separator].intercalate (next :: parts) := by
        simp [List.intercalate]
      rw [split, ih, List.flatMap_cons, List.cons_append]

theorem commas_cons (part : Bytes) (parts : List Bytes) :
    commas (part :: parts) = part ++ parts.flatMap (comma :: ·) :=
  intercalate_cons comma part parts

end NetSwitch.Json
