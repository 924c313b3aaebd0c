import PatchReview.Number.Binary64

/-!
The shortest decimal that reads back as a given double. Of the decimals with the fewest digits
inside the rounding interval it is the one nearest to the double.
-/

namespace PatchReview.Binary64

/-- A positive decimal: `digits` times ten to the power `exponent`. -/
structure Decimal where
  digits : Nat
  exponent : Int
  deriving DecidableEq, Repr

/-- The reals that round to a double, as fractions of one denominator. The ends count when
`closed`. -/
structure RoundingInterval where
  low : Nat
  value : Nat
  high : Nat
  den : Nat
  closed : Bool

/-- The interval of a positive double. It is shorter below a power of two. -/
def roundingInterval (mantissa : Nat) (exponent : Int) : RoundingInterval :=
  let up := Nat.pow 2 exponent.toNat
  let below := if mantissa = Nat.pow 2 52 ∧ exponent > -1074 then 1 else 2
  { low := (4 * mantissa - below) * up
    value := 4 * mantissa * up
    high := (4 * mantissa + 2) * up
    den := 4 * Nat.pow 2 (-exponent).toNat
    closed := mantissa % 2 = 0 }

namespace RoundingInterval

/-- Whether a decimal lies in the interval. -/
def contains (interval : RoundingInterval) (decimal : Decimal) : Bool :=
  let scaled := decimal.digits * Nat.pow 10 decimal.exponent.toNat * interval.den
  let unit := Nat.pow 10 (-decimal.exponent).toNat
  if interval.closed then interval.low * unit ≤ scaled && scaled ≤ interval.high * unit
  else interval.low * unit < scaled && scaled < interval.high * unit

/-- The power of ten of the value's first digit. Every double has it above -400. -/
def leadingPower (interval : RoundingInterval) : Int :=
  ((toString (interval.value * Nat.pow 10 400 / interval.den)).length : Int) - 401

/-- The best decimal on the grid of a power of ten, if one of the value's neighbours on it lies in
the interval. -/
def onGrid? (interval : RoundingInterval) (exponent : Int) : Option Decimal :=
  let num := interval.value * Nat.pow 10 (-exponent).toNat
  let den := interval.den * Nat.pow 10 exponent.toNat
  let lower : Decimal := ⟨num / den, exponent⟩
  let upper : Decimal := ⟨num / den + 1, exponent⟩
  match interval.contains lower, interval.contains upper with
  | true, true => some ⟨roundDiv num den, exponent⟩
  | true, false => some lower
  | false, true => some upper
  | false, false => none

/-- The first grid with a hit, from the coarsest, `steps` grids at most. -/
def shortestFrom (interval : RoundingInterval) (exponent : Int) : Nat → Decimal
  | 0 => ⟨interval.value / interval.den, 0⟩
  | steps + 1 =>
      match interval.onGrid? exponent with
      | some decimal => decimal
      | none => interval.shortestFrom (exponent - 1) steps

end RoundingInterval

/-- The shortest decimal of a positive double. Seventeen digits always suffice. -/
def shortest (mantissa : Nat) (exponent : Int) : Decimal :=
  let interval := roundingInterval mantissa exponent
  interval.shortestFrom interval.leadingPower 18

end PatchReview.Binary64
