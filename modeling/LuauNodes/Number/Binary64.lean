/-!
# Binary floating point numbers of 64 bits

A number is its bit pattern.  Rounding takes an exact ratio of natural numbers
to the nearest pattern, with ties to the even one, so that reading decimals
needs no arithmetic on rounded values.
-/

namespace LuauNodes

/-- A floating point number, as its sign bit, eleven exponent bits and 52 fraction bits. -/
structure Binary64 where
  bits : UInt64
  deriving DecidableEq, Inhabited

namespace Binary64

/-- The weight of the sign bit. -/
def signWeight : Nat := 1 <<< 63

/-- The weight of the least exponent bit, which is that of a full significand's leading bit. -/
def leadingWeight : Nat := 1 <<< 52

/-- A power of ten. -/
def tenTo (power : Nat) : Nat := Nat.pow 10 power

/-- The pattern of a magnitude, with the sign bit set when the number is negative. -/
def ofMagnitude (negative : Bool) (magnitude : Nat) : Binary64 :=
  ⟨UInt64.ofNat (if negative then magnitude + signWeight else magnitude)⟩

/-- The magnitude of the infinities. -/
def infinityMagnitude : Nat := 2047 * leadingWeight

/-- The sign bit is set. -/
def isNegative (x : Binary64) : Bool := x.bits.toNat ≥ signWeight

/-- The pattern without its sign bit. -/
def magnitude (x : Binary64) : Nat := x.bits.toNat % signWeight

/-- Not a number. -/
def isNaN (x : Binary64) : Bool := x.magnitude > infinityMagnitude

/-- One of the two infinities. -/
def isInfinite (x : Binary64) : Bool := x.magnitude == infinityMagnitude

/-- One of the two zeros. -/
def isZero (x : Binary64) : Bool := x.magnitude == 0

/-- The quiet pattern that is not a number. -/
def nan : Binary64 := ofMagnitude false (infinityMagnitude + leadingWeight / 2)

/-- An infinity of the given sign. -/
def infinity (negative : Bool) : Binary64 := ofMagnitude negative infinityMagnitude

/-- The quotient, rounded to the nearest whole number with ties to the even one. -/
def roundQuotient (dividend divisor : Nat) : Nat :=
  let whole := dividend / divisor
  let rest := dividend % divisor
  if 2 * rest < divisor then whole
  else if divisor < 2 * rest then whole + 1
  else if whole % 2 = 0 then whole
  else whole + 1

/-- The whole part of a ratio divided by a power of two. -/
def scaledFloor (dividend divisor : Nat) (exponent : Int) : Nat :=
  (dividend <<< (-exponent).toNat) / (divisor <<< exponent.toNat)

/-- The exponent at which a positive ratio has 53 significant bits, or the least one. -/
def fittingExponent (dividend divisor : Nat) : Int :=
  let guess : Int := (dividend.log2 : Int) - (divisor.log2 : Int) - 52
  let fitted :=
    if scaledFloor dividend divisor guess < leadingWeight then guess - 1
    else if 2 * leadingWeight ≤ scaledFloor dividend divisor guess then guess + 1
    else guess
  max fitted (-1074)

/-- The nearest number to a ratio, with ties to the even pattern. -/
def ofRatio (negative : Bool) (dividend divisor : Nat) : Binary64 :=
  if dividend = 0 then ofMagnitude negative 0
  else
    let exponent := fittingExponent dividend divisor
    let significand :=
      roundQuotient (dividend <<< (-exponent).toNat) (divisor <<< exponent.toNat)
    let magnitude :=
      if significand < leadingWeight then significand
      else (exponent + 1075).toNat * leadingWeight + (significand - leadingWeight)
    ofMagnitude negative (min magnitude infinityMagnitude)

/-- The number of decimal digits of a natural number, at least one. -/
def decimalLength (value : Nat) : Nat := (Nat.toDigits 10 value).length

/-- The nearest number to `coefficient * 10 ^ exponent`; far exponents go straight to
infinity or zero. -/
def ofDecimal (negative : Bool) (coefficient : Nat) (exponent : Int) : Binary64 :=
  if coefficient = 0 then ofMagnitude negative 0
  else if (decimalLength coefficient : Int) + exponent > 320 then infinity negative
  else if (decimalLength coefficient : Int) + exponent < -340 then ofMagnitude negative 0
  else ofRatio negative (coefficient * tenTo exponent.toNat) (tenTo (-exponent).toNat)

/-- The nearest number to an integer, unless that is beyond the largest finite one. -/
def ofInt? (value : Int) : Option Binary64 :=
  let rounded := ofRatio (value < 0) value.natAbs 1
  if rounded.isInfinite then none else some rounded

/-- The significand of a finite number. -/
def significand (x : Binary64) : Nat :=
  if x.magnitude < leadingWeight then x.magnitude
  else x.magnitude % leadingWeight + leadingWeight

/-- The power of two that scales the significand of a finite number. -/
def exponent (x : Binary64) : Int :=
  if x.magnitude < leadingWeight then -1074 else (x.magnitude / leadingWeight : Nat) - 1075

/-- Neither infinite nor not a number. -/
def isFinite (x : Binary64) : Bool := x.magnitude < infinityMagnitude

/-- The whole number that a finite number equals, if it equals one. -/
def toInt? (x : Binary64) : Option Int :=
  if !x.isFinite then none
  else
    let scaled := x.significand <<< x.exponent.toNat
    let divisor := 1 <<< (-x.exponent).toNat
    if scaled % divisor = 0 then
      let size : Int := (scaled / divisor : Nat)
      some (if x.isNegative then -size else size)
    else none

/-- A finite number as a signed dividend over a positive divisor. -/
def toFraction (x : Binary64) : Int × Nat :=
  let size : Int := (x.significand <<< x.exponent.toNat : Nat)
  (if x.isNegative then -size else size, 1 <<< (-x.exponent).toNat)

/-- The order of numbers; nothing is below or above what is not a number. -/
def below (x y : Binary64) : Bool :=
  if x.isNaN || y.isNaN then false
  else if x.isInfinite then x.isNegative && !(y.isInfinite && y.isNegative)
  else if y.isInfinite then !y.isNegative
  else
    let left := x.toFraction
    let right := y.toFraction
    left.1 * right.2 < right.1 * left.2

end Binary64

end LuauNodes
