import NetSwitch.Text.Bytes

/-! The small parts that JSON texts are made of: blanks, words and numbers.

A scanner takes the bytes that are left and returns what it read together with
the bytes after it, or says in which way the text is wrong.
-/

namespace NetSwitch.Json

/-- In which way a text cannot be read. -/
inductive ReadError where
  /-- It breaks the grammar. -/
  | malformed
  /-- It keeps to the grammar and says something that is not asked for. -/
  | unsuitable
  /-- It ends too early. -/
  | truncated
deriving DecidableEq, Repr

/-- What comes of reading: a value, or the way in which the text is wrong. -/
abbrev Read := Except ReadError

abbrev quoteMark : UInt8 := 0x22
abbrev plus : UInt8 := 0x2B
abbrev comma : UInt8 := 0x2C
abbrev minus : UInt8 := 0x2D
abbrev point : UInt8 := 0x2E
abbrev colon : UInt8 := 0x3A
abbrev openBracket : UInt8 := 0x5B
abbrev backslash : UInt8 := 0x5C
abbrev closeBracket : UInt8 := 0x5D
abbrev openBrace : UInt8 := 0x7B
abbrev closeBrace : UInt8 := 0x7D

def isBlank (b : UInt8) : Bool :=
  b = 0x20 || b = 0x09 || b = 0x0A || b = 0x0D

def skipBlanks (input : Bytes) : Bytes :=
  input.dropWhile isBlank

/-- The words `null`, `true` and `false`, by their first byte: what follows it. -/
def wordAfter? (b : UInt8) : Option Bytes :=
  if b = 0x6E then some [0x75, 0x6C, 0x6C]
  else if b = 0x74 then some [0x72, 0x75, 0x65]
  else if b = 0x66 then some [0x61, 0x6C, 0x73, 0x65]
  else none

def expectWord : Bytes → Bytes → Read Bytes
  | [], input => .ok input
  | _ :: _, [] => .error .truncated
  | expected :: word, b :: rest =>
      if b = expected then expectWord word rest else .error .malformed

def expectByte (expected : UInt8) (input : Bytes) : Read Bytes :=
  match skipBlanks input with
  | [] => .error .truncated
  | b :: rest => if b = expected then .ok rest else .error .malformed

/-! ### Numbers -/

def isDigit (b : UInt8) : Bool :=
  0x30 ≤ b && b ≤ 0x39

def isExponentMark (b : UInt8) : Bool :=
  b = 0x65 || b = 0x45

def digitValue (b : UInt8) : Nat :=
  b.toNat - 0x30

/-- A number as it is written: sign, whole part, and the digits after the point
and in the exponent if there are any. -/
structure Numeral where
  negative : Bool
  whole : Bytes
  fraction : Option Bytes
  exponent : Option (Bool × Bytes)
deriving DecidableEq, Repr

/-- Takes the digits in front; at least one must be there. -/
def scanDigits (input : Bytes) : Read (Bytes × Bytes) :=
  match input with
  | [] => .error .truncated
  | b :: _ =>
      if isDigit b then .ok (input.takeWhile isDigit, input.dropWhile isDigit)
      else .error .malformed

/-- The whole part of a number: a single zero, or digits that do not start with one. -/
def scanWhole (input : Bytes) : Read (Bytes × Bytes) := do
  let (digits, rest) ← scanDigits input
  if digits.head? = some 0x30 ∧ digits.length ≠ 1 then .error .malformed
  else .ok (digits, rest)

def scanFraction : Bytes → Read (Option Bytes × Bytes)
  | [] => .ok (none, [])
  | b :: rest =>
      if b = point then do
        let (digits, rest) ← scanDigits rest
        .ok (some digits, rest)
      else .ok (none, b :: rest)

/-- The sign of an exponent, which may be left out: whether it is a minus. -/
def scanSign : Bytes → Bool × Bytes
  | [] => (false, [])
  | b :: rest =>
      if b = plus then (false, rest) else if b = minus then (true, rest) else (false, b :: rest)

def scanExponent : Bytes → Read (Option (Bool × Bytes) × Bytes)
  | [] => .ok (none, [])
  | b :: rest =>
      if isExponentMark b then do
        let (negative, rest) := scanSign rest
        let (digits, rest) ← scanDigits rest
        .ok (some (negative, digits), rest)
      else .ok (none, b :: rest)

def scanUnsigned (negative : Bool) (input : Bytes) : Read (Numeral × Bytes) := do
  let (whole, rest) ← scanWhole input
  let (fraction, rest) ← scanFraction rest
  let (exponent, rest) ← scanExponent rest
  .ok (⟨negative, whole, fraction, exponent⟩, rest)

def scanNumeral : Bytes → Read (Numeral × Bytes)
  | [] => .error .truncated
  | b :: rest => if b = minus then scanUnsigned true rest else scanUnsigned false (b :: rest)

end NetSwitch.Json
