/-! Rounding to double precision, in whole numbers.

A double has 53 binary digits.  Numbers that are not whole are held as multiples of
a unit that is small enough for every double that comes up.
-/

namespace NetSwitch.Double

/-- The nearest number with 53 binary digits; of two that are equally near, the
one that ends in a zero. -/
def nearest (n : Nat) : Nat :=
  if n.log2 < 53 then n
  else
    let unit := 1 <<< (n.log2 - 52)
    let quotient := n / unit
    let remainder := n % unit
    if 2 * remainder > unit ∨ 2 * remainder = unit ∧ quotient % 2 = 1 then (quotient + 1) * unit
    else quotient * unit

/-- The nearest double to a quotient of more than 53 binary digits.  One more
digit says whether something is left over, so that only a true tie counts as one. -/
def quotient (n d : Nat) : Nat :=
  nearest (2 * (n / d) + if n % d = 0 then 0 else 1) / 2

def one : Nat := 1 <<< 128

def ratio (n d : Nat) : Nat :=
  quotient (n * one) d

def sum (a b : Nat) : Nat :=
  nearest (a + b)

end NetSwitch.Double
