/-
  This file defines the double-precision number that is
  nearest to a quotient of natural numbers.

  Key definitions include:
    * `Numeral.roundHalfEven`
    * `Numeral.scaledBy`
    * `Numeral.unitExponent`
    * `Numeral.nearestBits`
    * `Numeral.nearest`
-/

------------------------------------------------------------
-- Rounding
------------------------------------------------------------

namespace LatticeGas

namespace Numeral

/- The nearest integer to a quotient. Of two, the even one. -/
def roundHalfEven (num den : Nat) : Nat :=
  let floor := num / den
  let double := 2 * (num % den)
  if double < den ∨ double = den ∧ floor % 2 = 0 then
    floor
  else
    floor + 1

/- The leading bit of a significand with 53 bits. -/
def hiddenBit : Nat :=
  4503599627370496

/- The quotient in units of `2 ^ exponent`, as a quotient. -/
def scaledBy
    (exponent : Int)
    (num den : Nat) : Nat × Nat :=
  match exponent with
  | .ofNat up => (num, den <<< up)
  | .negSucc down => (num <<< (down + 1), den)

/-
  The exponent of the last place of the nearest number with
  53 bits. Below the smallest normal number it stays the same.
-/
def unitExponent (num den : Nat) : Int :=
  let guess : Int :=
    (Nat.log2 num : Int) - (Nat.log2 den : Int) - 53
  let scaled := scaledBy guess num den
  let exact :=
    if 2 * hiddenBit ≤ scaled.1 / scaled.2 then guess + 1
    else guess
  max exact (-1074)

end Numeral

end LatticeGas

------------------------------------------------------------
-- Nearest Doubles
------------------------------------------------------------

namespace LatticeGas

namespace Numeral

/- The bits of infinity, above those of all finite numbers. -/
def infinityBits : Nat :=
  2047 * hiddenBit

/-
  The bits of the double that is nearest to a quotient. A
  significand that is rounded up to `2 ^ 53` carries into the
  exponent, and too large an exponent gives infinity.
-/
def nearestBits (num den : Nat) : Nat :=
  if num = 0 then
    0
  else
    let exponent := unitExponent num den
    let scaled := scaledBy exponent num den
    let significand := roundHalfEven scaled.1 scaled.2
    min infinityBits
      ((exponent + 1074).toNat * hiddenBit + significand)

/- The double that is nearest to a quotient. -/
def nearest (num den : Nat) : Float :=
  Float.ofBits (UInt64.ofNat (nearestBits num den))

end Numeral

end LatticeGas
