/-
  This file defines how unsigned numbers with an upper limit
  are read from decimal digits.

  Key definitions include:
    * `Numeral.digit?`
    * `Numeral.UnsignedError`
    * `Numeral.readDigits`
    * `Numeral.readUnsigned`
-/

------------------------------------------------------------
-- Digits
------------------------------------------------------------

namespace LatticeGas

namespace Numeral

/- The value of a decimal digit. -/
def digit? (char : Char) : Option Nat :=
  if '0' ≤ char ∧ char ≤ '9' then
    some (char.toNat - '0'.toNat)
  else
    none

end Numeral

end LatticeGas

------------------------------------------------------------
-- Unsigned Numbers
------------------------------------------------------------

namespace LatticeGas

namespace Numeral

/- The reasons for which a text is no unsigned number. -/
inductive UnsignedError where
  | empty
  | invalidDigit
  | overflow
  deriving DecidableEq

/- The name of a reason. -/
def UnsignedError.label : UnsignedError → String
| .empty => "Empty"
| .invalidDigit => "InvalidDigit"
| .overflow => "PosOverflow"

/-
  Read digits on from the value of those before them. The
  first character that is no digit, or that leads above the
  limit, decides.
-/
def readDigits (limit : Nat) :
    (value : Nat) → List Char → Except UnsignedError Nat
| value, [] => .ok value
| value, char :: chars =>
    match digit? char with
    | none => .error .invalidDigit
    | some digit =>
        let extended := 10 * value + digit
        if extended ≤ limit then
          readDigits limit extended chars
        else
          .error .overflow

/- Read an unsigned number. A plus sign may precede it. -/
def readUnsigned
    (limit : Nat)
    (text : String) : Except UnsignedError Nat :=
  match text.toList with
  | [] => .error .empty
  | ['+'] => .error .invalidDigit
  | '+' :: chars => readDigits limit 0 chars
  | chars => readDigits limit 0 chars

end Numeral

end LatticeGas
