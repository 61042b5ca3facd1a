import Redelivery.Number.Binary64
/-!
# Shortest decimal text

A double is written with the fewest digits that read back as the same double, and
of those with the nearest. `shortest` finds them on the coarsest grid of a power
of ten that has a point among the reals rounding to the double. How the digits are
laid out is the business of `plain` (always positional) and `scientific?`
(positional up to 16 places, then with an exponent).
-/

namespace Redelivery

set_option autoImplicit false

/-- A positive decimal number `digits * 10 ^ power`. -/
structure DecimalForm where
  digits : Nat
  power : Int
  deriving DecidableEq

namespace Binary64

/-- `significand * 10 ^ power` compared with `n * 2 ^ exponent`, both positive. -/
def compareScaled (digits : Nat) (power : Int) (n : Nat) (exponent : Int) : Ordering :=
  let left := digits * Nat.pow 10 power.toNat * Nat.pow 2 (-exponent).toNat
  let right := n * Nat.pow 2 exponent.toNat * Nat.pow 10 (-power).toNat
  compare left right

/-- Whether a decimal number rounds to the positive finite double of this
magnitude. The bounds belong to the interval when the significand is even. -/
def roundsTo (magnitude : Nat) (form : DecimalForm) : Bool :=
  let (significand, exponent) := decompose magnitude
  let narrow := significand = Nat.pow 2 52 ∧ -1074 < exponent
  let below := if narrow then 4 * significand - 1 else 4 * significand - 2
  let above := 4 * significand + 2
  let even := significand % 2 = 0
  let fromBelow := compareScaled form.digits form.power below (exponent - 2)
  let fromAbove := compareScaled form.digits form.power above (exponent - 2)
  form.digits ≠ 0
    && (fromBelow == .gt || (fromBelow == .eq && even))
    && (fromAbove == .lt || (fromAbove == .eq && even))

/-- The largest multiple of `10 ^ power` that is not above the magnitude, in
units of `10 ^ power`. -/
def floorAt (magnitude : Nat) (power : Int) : Nat :=
  let (numerator, denominator) := ratio magnitude
  numerator * Nat.pow 10 (-power).toNat / (denominator * Nat.pow 10 power.toNat)

/-- The nearer of two neighbouring grid points; the even one of two equally near. -/
def nearer (magnitude : Nat) (power : Int) (low : Nat) : Nat :=
  let (numerator, denominator) := ratio magnitude
  let left := 2 * numerator * Nat.pow 10 (-power).toNat
  let right := (2 * low + 1) * denominator * Nat.pow 10 power.toNat
  if left < right then low else if right < left then low + 1 else low + low % 2

/-- The grid point of `10 ^ power` that rounds to the magnitude, if there is one. -/
def onGrid? (magnitude : Nat) (power : Int) : Option DecimalForm :=
  let low := floorAt magnitude power
  let candidates := [nearer magnitude power low, low, low + 1]
  (candidates.find? fun digits => roundsTo magnitude ⟨digits, power⟩).map (⟨·, power⟩)

/-- Searches the grids from `10 ^ (steps - 325)` downwards. -/
def searchGrids (magnitude : Nat) : Nat → DecimalForm
  | 0 => ⟨magnitude, -325⟩
  | steps + 1 =>
      match onGrid? magnitude ((steps : Int) - 325) with
      | some form => form
      | none => searchGrids magnitude steps

/-- The shortest decimal number that reads back as a positive finite magnitude. -/
def shortest (magnitude : Nat) : DecimalForm := searchGrids magnitude 640

/-- The sign of a number as it stands before its digits. -/
def signText (x : Binary64) : String := if x.negative then "-" else ""

/-- A run of zeros. -/
def zeros (count : Nat) : String := String.ofList (List.replicate count '0')

/-- Digits with a point `before` places in from the left. -/
def pointed (digits : String) (before : Nat) : String :=
  String.ofList (digits.toList.take before) ++ "." ++ String.ofList (digits.toList.drop before)

/-- Positional notation without a trailing point: `100`, `0.1`, `-0`. -/
def plain (x : Binary64) : String :=
  if x.isNaN then "NaN"
  else if !x.isFinite then signText x ++ "inf"
  else if x.isZero then signText x ++ "0"
  else
    let form := shortest x.magnitude
    let digits := toString form.digits
    let places := (digits.length : Int) + form.power
    signText x ++
      (if 0 ≤ form.power then digits ++ zeros form.power.toNat
       else if 0 < places then pointed digits places.toNat
       else "0." ++ zeros (-places).toNat ++ digits)

/-- Positional notation that always shows a point: `100.0`, `0.1`. -/
def plainPointed (x : Binary64) : String :=
  let text := plain x
  if x.isFinite && !text.toList.contains '.' then text ++ ".0" else text

/-- Positional notation with a point from `1e-5` up to but not including `1e16`;
elsewhere one digit before the point and an exponent that always has a sign. Only a
finite number has such a notation. -/
def scientific? (x : Binary64) : Option String :=
  if !x.isFinite then none
  else if x.isZero then some (signText x ++ "0.0")
  else
    let form := shortest x.magnitude
    let digits := toString form.digits
    let places := (digits.length : Int) + form.power
    some (signText x ++
      (if 0 ≤ form.power ∧ places ≤ 16 then digits ++ zeros form.power.toNat ++ ".0"
       else if 0 < places ∧ places ≤ 16 then pointed digits places.toNat
       else if -5 < places ∧ places ≤ 0 then "0." ++ zeros (-places).toNat ++ digits
       else (if digits.length = 1 then digits else pointed digits 1)
         ++ (if 1 ≤ places then "e+" else "e") ++ toString (places - 1)))

end Binary64

end Redelivery
