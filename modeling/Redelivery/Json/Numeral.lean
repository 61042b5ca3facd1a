import Redelivery.Json.Raw
import Redelivery.Number.Binary64
/-!
# What a JSON number means

A number without point and exponent is an integer when it fits 64 bits, signed or
not; minus zero and everything else is a double. The digits of a double are
gathered into a significand below `2 ^ 64`: a digit that no longer fits raises the
power of ten if it stands in the whole part and is dropped if it stands in the
fraction.
-/

namespace Redelivery.Json.Numeral

set_option autoImplicit false

/-- Appends digits to a significand while it stays below `2 ^ 64`; the rest is
returned. -/
def gather (significand : Nat) : List Nat → Nat × List Nat
  | [] => (significand, [])
  | digit :: rest =>
      if significand * 10 + digit < Nat.pow 2 64 then gather (significand * 10 + digit) rest
      else (significand, digit :: rest)

/-- The value of a run of digits. -/
def ofDigits (digits : List Nat) : Nat := digits.foldl (fun value digit => value * 10 + digit) 0

/-- The significand and the power of ten of a number. -/
def scaled (numeral : Numeral) : Nat × Int :=
  let (significand, overflow) := gather 0 numeral.whole
  let (significand, dropped) := gather significand numeral.fraction
  let kept := numeral.fraction.length - dropped.length
  let exponent : Int := ofDigits numeral.exponent
  (significand,
    (overflow.length : Int) - kept + (if numeral.exponentNegative then -exponent else exponent))

/-- The double of a number; refused when it overflows. -/
def toBinary64? (numeral : Numeral) : Option Binary64 :=
  let (significand, power) := numeral.scaled
  (Binary64.ofScaled? significand power).map (⟨numeral.negative, ·⟩)

/-- The integer of a number, when it is one that fits 64 bits. -/
def toInt? (numeral : Numeral) : Option Int :=
  let value := ofDigits numeral.whole
  if numeral.pointed then none
  else if numeral.negative then
    if 0 < value ∧ value ≤ Nat.pow 2 63 then some (-(value : Int)) else none
  else if value < Nat.pow 2 64 then some value else none

end Redelivery.Json.Numeral
