import LatticeGas.Numeral.Nearest
import LatticeGas.Numeral.Unsigned

/-
  This file defines how decimal numbers are read, and the
  double-precision number that each of them stands for.

  Key definitions include:
    * `Numeral.Decimal`
    * `Numeral.Decimal.toFloat`
    * `Numeral.DecimalError`
    * `Numeral.readDecimal`
-/

------------------------------------------------------------
-- Decimal Numbers
------------------------------------------------------------

namespace LatticeGas

namespace Numeral

/-
  A decimal number is an integer times a power of ten, or an
  infinity, or no number. The first two have a sign.
-/
inductive Decimal where
  | nan
  | infinite (negative : Bool)
  | finite (negative : Bool) (digits : Nat) (exponent : Int)
  deriving DecidableEq

namespace Decimal

/-
  The double that is nearest to a product of an integer and a
  power of ten. Where the exponent alone shows that it is
  infinite or zero, the power is not computed.
-/
def magnitude
    (digits : Nat)
    (exponent : Int) : Float :=
  if digits = 0 then
    nearest 0 1
  else
    match exponent with
    | .ofNat up =>
        if 400 < up then
          Float.ofBits (UInt64.ofNat infinityBits)
        else
          nearest (digits * Nat.pow 10 up) 1
    | .negSucc down =>
        if Nat.log2 digits + 400 < down then
          nearest 0 1
        else
          nearest digits (Nat.pow 10 (down + 1))

/- Change the sign of a number if it is negative. -/
def signed
    (negative : Bool)
    (value : Float) : Float :=
  if negative then -value else value

/- The double that is nearest to a decimal number. -/
def toFloat : Decimal → Float
| .nan => 0.0 / 0.0
| .infinite negative =>
    signed negative
      (Float.ofBits (UInt64.ofNat infinityBits))
| .finite negative digits exponent =>
    signed negative (magnitude digits exponent)

end Decimal

end Numeral

end LatticeGas

------------------------------------------------------------
-- Reading
------------------------------------------------------------

namespace LatticeGas

namespace Numeral

/- The reasons for which a text is no decimal number. -/
inductive DecimalError where
  | empty
  | invalid
  deriving DecidableEq

/- The name of a reason. -/
def DecimalError.label : DecimalError → String
| .empty => "Empty"
| .invalid => "Invalid"

/- Read a sign, if there is one. -/
def readSign : List Char → Bool × List Char
| '+' :: chars => (false, chars)
| '-' :: chars => (true, chars)
| chars => (false, chars)

/- The digits at the front of a text, and what follows. -/
def spanDigits : List Char → List Nat × List Char
| [] => ([], [])
| char :: chars =>
    match digit? char with
    | none => ([], char :: chars)
    | some digit =>
        let (digits, rest) := spanDigits chars
        (digit :: digits, rest)

/- The number that is written by decimal digits. -/
def ofDigits (digits : List Nat) : Nat :=
  digits.foldl (fun value digit => 10 * value + digit) 0

/- Read an exponent, which may be missing, up to the end. -/
def readExponent : List Char → Option Int
| [] => some 0
| char :: chars =>
    if char = 'e' ∨ char = 'E' then
      let (negative, chars) := readSign chars
      match spanDigits chars with
      | (digit :: digits, []) =>
          let size : Int := ofDigits (digit :: digits)
          some (if negative then -size else size)
      | _ => none
    else
      none

/-
  Read digits around a point, with at least one digit, and an
  exponent. Every digit behind the point divides by ten.
-/
def readFinite
    (negative : Bool)
    (chars : List Char) : Option Decimal :=
  let (whole, rest) := spanDigits chars
  let (fraction, rest) :=
    match rest with
    | '.' :: rest => spanDigits rest
    | rest => ([], rest)
  let digits := whole ++ fraction
  if digits.isEmpty then
    none
  else
    (readExponent rest).map fun exponent =>
      .finite negative (ofDigits digits)
        (exponent - fraction.length)

/- Read one of the words for what is not finite. -/
def readSpecial
    (negative : Bool)
    (chars : List Char) : Option Decimal :=
  match String.ofList (chars.map Char.toLower) with
  | "inf" => some (.infinite negative)
  | "infinity" => some (.infinite negative)
  | "nan" => some .nan
  | _ => none

/- Read a decimal number. -/
def readDecimal
    (text : String) : Except DecimalError Decimal :=
  if text.isEmpty then
    .error .empty
  else
    let (negative, chars) := readSign text.toList
    match readFinite negative chars with
    | some decimal => .ok decimal
    | none =>
        match readSpecial negative chars with
        | some decimal => .ok decimal
        | none => .error .invalid

end Numeral

end LatticeGas
