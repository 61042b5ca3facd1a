/-!
# Doubles

A `Binary64` is held by its bits, and its arithmetic is exact arithmetic on
natural numbers followed by one rounding: `ofRatio` rounds a quotient to the
nearest double, a tie to the even one. Every other operation here (`ofScaled`
for decimal notation, products, rounding to whole numbers) is that one applied to
the exact value of its operands.
-/

namespace Redelivery

set_option autoImplicit false

/-- A double, by its sign and the bits below the sign. -/
structure Binary64 where
  negative : Bool
  magnitude : Nat
  deriving DecidableEq

namespace Binary64

/-- The magnitude of infinity; any larger one is not a number. -/
def infinite : Nat := 0x7FF * Nat.pow 2 52

/-- The 64 bits of a double. -/
def toBits (x : Binary64) : UInt64 :=
  UInt64.ofNat ((if x.negative then Nat.pow 2 63 else 0) + x.magnitude)

def isFinite (x : Binary64) : Bool := x.magnitude < infinite

def isNaN (x : Binary64) : Bool := infinite < x.magnitude

def isZero (x : Binary64) : Bool := x.magnitude = 0

/-- A finite magnitude as `significand * 2 ^ exponent`. -/
def decompose (magnitude : Nat) : Nat × Int :=
  let field : Nat := magnitude / Nat.pow 2 52
  let fraction : Nat := magnitude % Nat.pow 2 52
  if field = 0 then (fraction, -1074) else (fraction + Nat.pow 2 52, (field : Int) - 1075)

/-- `numerator / denominator` to the nearest whole number, a half to the even one. -/
def divNearest (numerator denominator : Nat) : Nat :=
  let whole := numerator / denominator
  let twice := 2 * (numerator % denominator)
  if twice < denominator then whole
  else if denominator < twice then whole + 1
  else whole + whole % 2

/-- The quotient over `2 ^ exponent`, to the nearest whole number. -/
def significandAt (numerator denominator : Nat) (exponent : Int) : Nat :=
  if 0 ≤ exponent then divNearest numerator (denominator * Nat.pow 2 exponent.toNat)
  else divNearest (numerator * Nat.pow 2 (-exponent).toNat) denominator

/-- The least exponent, from -1074 up, at which the quotient fits 53 bits. -/
def fittingExponent (numerator denominator : Nat) : Int :=
  let guess : Int := (Nat.log2 numerator : Int) - Nat.log2 denominator - 53
  let least : Int := max guess (-1074)
  let fits (exponent : Int) : Bool :=
    if 0 ≤ exponent then numerator < denominator * Nat.pow 2 53 * Nat.pow 2 exponent.toNat
    else numerator * Nat.pow 2 (-exponent).toNat < denominator * Nat.pow 2 53
  if fits least then least else if fits (least + 1) then least + 1 else least + 2

/-- The magnitude nearest to a quotient; at or past `infinite` when it overflows.
Consecutive doubles have consecutive magnitudes, so a significand that rounds up
to the next power of two needs no care. -/
def ofRatio (numerator denominator : Nat) : Nat :=
  if numerator = 0 then 0
  else
    let exponent := fittingExponent numerator denominator
    let significand := significandAt numerator denominator exponent
    (exponent + 1074).toNat * Nat.pow 2 52 + significand

/-- A finite magnitude as an exact quotient. -/
def ratio (magnitude : Nat) : Nat × Nat :=
  let (significand, exponent) := decompose magnitude
  if 0 ≤ exponent then (significand * Nat.pow 2 exponent.toNat, 1)
  else (significand, Nat.pow 2 (-exponent).toNat)

/-- The product of two finite magnitudes, rounded once. -/
def mulMagnitude (a b : Nat) : Nat :=
  let (an, ad) := ratio a
  let (bn, bd) := ratio b
  ofRatio (an * bn) (ad * bd)

/-- The quotient of two finite magnitudes, rounded once. -/
def divMagnitude (a b : Nat) : Nat :=
  let (an, ad) := ratio a
  let (bn, bd) := ratio b
  ofRatio (an * bd) (ad * bn)

/-- The magnitude nearest to a power of ten. -/
def tenToThe (power : Nat) : Nat := ofRatio (Nat.pow 10 power) 1

/-- Divides a magnitude by a power of ten in steps of at most 308, each rounded. -/
def scaleDown (magnitude power : Nat) : Nat :=
  if power ≤ 308 then divMagnitude magnitude (tenToThe power)
  else if magnitude = 0 then 0
  else scaleDown (divMagnitude magnitude (tenToThe 308)) (power - 308)
termination_by power

/-- `significand * 10 ^ power` as a magnitude: the significand is rounded first and
the result of each scaling again. Refused when it overflows. -/
def ofScaled? (significand : Nat) (power : Int) : Option Nat :=
  let rounded := ofRatio significand 1
  if power < 0 then some (scaleDown rounded (-power).toNat)
  else if rounded = 0 then some 0
  else if 308 < power then none
  else
    let scaled := mulMagnitude rounded (tenToThe power.toNat)
    if scaled < infinite then some scaled else none

/-- `significand * 10 ^ power` rounded once; infinite when it overflows. -/
def nearestDecimal (significand : Nat) (power : Int) : Nat :=
  let magnitude :=
    if 400 < power then (if significand = 0 then 0 else infinite)
    else if 0 ≤ power then ofRatio (significand * Nat.pow 10 power.toNat) 1
    else ofRatio significand (Nat.pow 10 (-power).toNat)
  min magnitude infinite

/-- The nearest whole number to a finite double, a half away from zero. -/
def round (x : Binary64) : Int :=
  let (numerator, denominator) := ratio x.magnitude
  let whole : Nat := (2 * numerator + denominator) / (2 * denominator)
  if x.negative then -(whole : Int) else whole

/-- The nearest whole number kept within bounds; what is not a number is 0. -/
def roundWithin (low high : Int) (x : Binary64) : Int :=
  if x.isNaN then 0
  else if !x.isFinite then (if x.negative then low else high)
  else max low (min high x.round)

end Binary64

end Redelivery
