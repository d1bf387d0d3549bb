import NetSwitch.Json.Scan

/-! Strings in JSON texts.

A string that is kept is decoded: escapes become the characters they name, two
escaped surrogates become the one character they make, and the result must be
a text.  A string that is not kept only has to be well formed as a spelling.
-/

namespace NetSwitch.Json

def hexDigit? (b : UInt8) : Option Nat :=
  if 0x30 ≤ b ∧ b ≤ 0x39 then some (b.toNat - 0x30)
  else if 0x61 ≤ b ∧ b ≤ 0x66 then some (b.toNat - 0x61 + 10)
  else if 0x41 ≤ b ∧ b ≤ 0x46 then some (b.toNat - 0x41 + 10)
  else none

def escaped? (b : UInt8) : Option UInt8 :=
  if b = quoteMark ∨ b = backslash ∨ b = 0x2F then some b
  else if b = 0x62 then some 0x08
  else if b = 0x66 then some 0x0C
  else if b = 0x6E then some 0x0A
  else if b = 0x72 then some 0x0D
  else if b = 0x74 then some 0x09
  else none

def isLeading (unit : Nat) : Bool :=
  0xD800 ≤ unit && unit ≤ 0xDBFF

def isTrailing (unit : Nat) : Bool :=
  0xDC00 ≤ unit && unit ≤ 0xDFFF

/-- Where a reader stands within a string. -/
inductive Place where
  | plain
  /-- After a backslash. -/
  | escape
  /-- Within the four digits of an escape: how many are missing, their value so
  far unless one of them is no digit, and the leading surrogate before it. -/
  | digits (missing : Nat) (value : Option Nat) (leading : Option Nat)
  /-- After a leading surrogate: another escape must follow. -/
  | leading (unit : Nat)
  | leadingEscape (unit : Nat)
deriving DecidableEq, Repr

/-- Takes the value of four digits.  They are looked at together: a byte among
them that is no digit is noticed after the fourth. -/
def takeUnit (value first : Option Nat) : Read (Bytes × Place) :=
  match value, first with
  | none, _ => .error .malformed
  | some unit, none =>
      if isTrailing unit then .error .malformed
      else if isLeading unit then .ok ([], .leading unit)
      else .ok (String.utf8EncodeChar (Char.ofNat unit), .plain)
  | some unit, some first =>
      if isTrailing unit then
        let scalar := (first - 0xD800) * 0x400 + (unit - 0xDC00) + 0x10000
        .ok (String.utf8EncodeChar (Char.ofNat scalar), .plain)
      else .error .malformed

/-- Reads one byte of a kept string other than the quote that ends it: the bytes
it adds to the decoded string, and where it leads. -/
def Place.step (place : Place) (b : UInt8) : Read (Bytes × Place) :=
  match place with
  | .plain =>
      if b = backslash then .ok ([], .escape)
      else if b < 0x20 then .error .malformed
      else .ok ([b], .plain)
  | .escape =>
      if b = 0x75 then .ok ([], .digits 4 (some 0) none)
      else match escaped? b with
        | some decoded => .ok ([decoded], .plain)
        | none => .error .malformed
  | .digits missing value first =>
      let value := do
        let high ← value
        let digit ← hexDigit? b
        some (high * 16 + digit)
      if missing = 1 then takeUnit value first
      else .ok ([], .digits (missing - 1) value first)
  | .leading unit => if b = backslash then .ok ([], .leadingEscape unit) else .error .malformed
  | .leadingEscape unit =>
      if b = 0x75 then .ok ([], .digits 4 (some 0) (some unit)) else .error .malformed

/-- Decodes a string up to the quote that ends it.  What has been decoded so far
is held in reverse. -/
def decodeText (decoded : Bytes) : Place → Bytes → Read (Bytes × Bytes)
  | _, [] => .error .truncated
  | place, b :: rest =>
      if place = .plain ∧ b = quoteMark then .ok (decoded.reverse, rest)
      else match place.step b with
        | .error e => .error e
        | .ok (added, next) => decodeText (added.reverse ++ decoded) next rest

def readText (input : Bytes) : Read (String × Bytes) := do
  let (bytes, rest) ← decodeText [] .plain input
  match bytes.toString? with
  | some text => .ok (text, rest)
  | none => .error .malformed

/-! ### Writing -/

/-- How a character stands in a written string: quotes, backslashes and control
characters are escaped, and nothing else is. -/
def escapeChar (c : Char) : List Char :=
  if c = '"' then ['\\', '"']
  else if c = '\\' then ['\\', '\\']
  else if c.toNat = 0x08 then ['\\', 'b']
  else if c.toNat = 0x0C then ['\\', 'f']
  else if c = '\n' then ['\\', 'n']
  else if c = '\r' then ['\\', 'r']
  else if c = '\t' then ['\\', 't']
  else if c.toNat < 0x20 then
    ['\\', 'u', '0', '0', Nat.digitChar (c.toNat / 16), Nat.digitChar (c.toNat % 16)]
  else [c]

def writeText (text : String) : List Char :=
  '"' :: text.toList.flatMap escapeChar ++ ['"']

end NetSwitch.Json
