import LuauNodes.Number.Binary64

/-!
# The shortest decimal that reads back

A finite number is written with the fewest significant digits that still
determine it.  For each digit count the two neighbours of the number on that
decimal grid are tested against the interval of reals that round to it; the
first grid with a hit wins, and of two hits the nearer.
-/

namespace LuauNodes

namespace Shortest

/-- A positive ratio, compared exactly. -/
structure Ratio where
  dividend : Nat
  divisor : Nat

/-- The ratio order. -/
def Ratio.le (left right : Ratio) : Bool :=
  left.dividend * right.divisor ≤ right.dividend * left.divisor

/-- The ratio times a power of two. -/
def Ratio.shift (ratio : Ratio) (power : Int) : Ratio :=
  ⟨ratio.dividend <<< power.toNat, ratio.divisor <<< (-power).toNat⟩

/-- The ratio divided by a power of ten. -/
def Ratio.unscale (ratio : Ratio) (power : Int) : Ratio :=
  ⟨ratio.dividend * Binary64.tenTo (-power).toNat, ratio.divisor * Binary64.tenTo power.toNat⟩

/-- The reals that round to a number. -/
structure Interval where
  low : Ratio
  high : Ratio
  closed : Bool

/-- A ratio lies in the interval. -/
def Interval.contains (interval : Interval) (ratio : Ratio) : Bool :=
  if interval.closed then interval.low.le ratio && ratio.le interval.high
  else !ratio.le interval.low && !interval.high.le ratio

/-- The value of a positive finite number. -/
def valueOf (x : Binary64) : Ratio :=
  Ratio.shift ⟨x.significand, 1⟩ x.exponent

/-- The reals that round to a positive finite number: half a unit to each side, and only a
quarter below a power of two. -/
def intervalOf (x : Binary64) : Interval where
  low :=
    if x.significand = Binary64.leadingWeight && x.magnitude ≥ 2 * Binary64.leadingWeight then
      Ratio.shift ⟨4 * x.significand - 1, 1⟩ (x.exponent - 2)
    else Ratio.shift ⟨2 * x.significand - 1, 1⟩ (x.exponent - 1)
  high := Ratio.shift ⟨2 * x.significand + 1, 1⟩ (x.exponent - 1)
  closed := x.significand % 2 = 0

/-- The power of ten of the leading digit of a positive ratio. -/
def leadingPower (ratio : Ratio) : Int :=
  let guess : Int :=
    (Binary64.decimalLength ratio.dividend : Int) - (Binary64.decimalLength ratio.divisor : Int)
  let atLeast (power : Int) : Bool := Ratio.le ⟨1, 1⟩ (ratio.unscale power)
  if atLeast (guess + 1) then guess + 1 else if atLeast guess then guess else guess - 1

/-- The grid point nearest to the number among those in the interval, with the given power of
ten as the unit of the grid. -/
def gridHit? (x : Binary64) (power : Int) : Option Nat :=
  let scaled := (valueOf x).unscale power
  let floor := scaled.dividend / scaled.divisor
  let inside (point : Nat) : Bool :=
    (intervalOf x).contains ⟨point * Binary64.tenTo power.toNat, Binary64.tenTo (-power).toNat⟩
  let rest := scaled.dividend % scaled.divisor
  match inside floor, inside (floor + 1) with
  | true, false => some floor
  | false, true => some (floor + 1)
  | true, true =>
    if 2 * rest < scaled.divisor then some floor
    else if scaled.divisor < 2 * rest then some (floor + 1)
    else if floor % 2 = 0 then some floor else some (floor + 1)
  | false, false => none

/-- The digits and the unit of the first grid with a hit, trying the given digit counts. -/
def search (x : Binary64) (leading : Int) : List Nat → Nat × Int
  | [] => (0, 0)
  | count :: rest =>
    let power := leading - (count : Int) + 1
    match gridHit? x power with
    | some point => (point, power)
    | none => search x leading rest

/-- The shortest decimal of a positive finite number: a coefficient and a power of ten. -/
def decimal (x : Binary64) : Nat × Int :=
  search x (leadingPower (valueOf x)) ((List.range 17).map (· + 1))

/-- Drops the trailing zeros of a coefficient into its power. -/
def normalise : Nat → Nat × Int → Nat × Int
  | 0, decimal => decimal
  | fuel + 1, (coefficient, power) =>
    if coefficient ≠ 0 && coefficient % 10 = 0 then normalise fuel (coefficient / 10, power + 1)
    else (coefficient, power)

end Shortest

/-- The text of an exponent: a sign and at least two digits. -/
def exponentText (exponent : Int) : String :=
  let digits := toString exponent.natAbs
  (if exponent < 0 then "-" else "+") ++ (if digits.length < 2 then "0" ++ digits else digits)

/-- A magnitude is written positionally from 10⁻⁴ up to 10¹⁶, always with a fraction, and
otherwise with one leading digit and an exponent. -/
def Binary64.toText (x : Binary64) : String :=
  if x.isNaN then "NaN"
  else
    let sign := if x.isNegative then "-" else ""
    if x.isInfinite then sign ++ "Infinity"
    else if x.isZero then sign ++ "0.0"
    else
      let (coefficient, power) := Shortest.normalise 20 (Shortest.decimal x)
      let digits := Nat.toDigits 10 coefficient
      let point : Int := (digits.length : Int) + power
      if -4 < point && point ≤ 16 then
        if point ≤ 0 then
          sign ++ "0." ++ String.ofList (List.replicate (-point).toNat '0' ++ digits)
        else if power ≥ 0 then
          sign ++ String.ofList (digits ++ List.replicate power.toNat '0') ++ ".0"
        else
          sign ++ String.ofList (digits.take point.toNat) ++ "." ++
            String.ofList (digits.drop point.toNat)
      else
        let fraction := digits.drop 1
        sign ++ String.ofList (digits.take 1) ++
          (if fraction.isEmpty then "" else "." ++ String.ofList fraction) ++
          "e" ++ exponentText (point - 1)

end LuauNodes
