import NetSwitch.Double
import NetSwitch.Json.Scan

/-! The value of a written number, as far as it matters to a reader of integers.

A number that is written as an integer and fits 64 bits has that value.  Any
other number is read as a double, and only whether it exceeds the doubles is of
interest.  That reading collects digits into a 64-bit significand until the
next digit would not fit, lets the rest of the digits move the point, and
multiplies the significand by a power of ten, rounding each of the three.
-/

namespace NetSwitch.Json

/-- Adds digits to a significand while it fits 64 bits; returns it with the
digits from the first that does not fit. -/
def collect : Nat → Bytes → Nat × Bytes
  | significand, [] => (significand, [])
  | significand, b :: rest =>
      let extended := significand * 10 + digitValue b
      if extended < UInt64.size then collect extended rest else (significand, b :: rest)

/-- Whether a significand times a power of ten is beyond the doubles. -/
def exceedsDouble (significand : Nat) (exponent : Int) : Bool :=
  if significand = 0 ∨ exponent < 0 then false
  else if exponent > 308 then true
  else
    let power := Double.nearest (Nat.pow 10 exponent.toNat)
    1024 ≤ (Double.nearest (Double.nearest significand * power)).log2

namespace Numeral

def exponentValue (n : Numeral) : Int :=
  match n.exponent with
  | none => 0
  | some (negative, digits) =>
      let value := digits.foldl (fun total b => total * 10 + digitValue b) 0
      if negative then -(value : Int) else value

def isTooLarge (n : Numeral) : Bool :=
  let (significand, beyond) := collect 0 n.whole
  let fraction := n.fraction.getD []
  let (significand, below) := collect significand fraction
  let point : Int := beyond.length - ((fraction.length - below.length : Nat) : Int)
  exceedsDouble significand (point + n.exponentValue)

/-- The value of a number without sign, point or exponent that fits 64 bits. -/
def natural? (n : Numeral) : Option Nat :=
  match n with
  | ⟨false, whole, none, none⟩ =>
      match collect 0 whole with
      | (value, []) => some value
      | _ => none
  | _ => none

end Numeral

/-- Reads a number: its value if it is a natural number of 64 bits. -/
def readNumber (input : Bytes) : Read (Option Nat × Bytes) := do
  let (numeral, rest) ← scanNumeral input
  match numeral.natural? with
  | some value => .ok (some value, rest)
  | none => if numeral.isTooLarge then .error .malformed else .ok (none, rest)

end NetSwitch.Json
