/-!
Double precision numbers. A finite number is a sign and a mantissa times a power of two; results
are rounded to the nearest such number, and a tie goes to the even mantissa.
-/

namespace PatchReview

/-- A double precision number. Finite numbers made by `Binary64.ofRatio` have a mantissa below
2^53 and the least exponent that allows, but not below -1074. -/
inductive Binary64 where
  | finite (negative : Bool) (mantissa : Nat) (exponent : Int)
  | infinite (negative : Bool)
  | nan
  deriving DecidableEq, Repr

namespace Binary64

/-- Zero with a sign. -/
def signedZero (negative : Bool) : Binary64 := .finite negative 0 (-1074)

/-- A quotient rounded to the nearest whole number, a tie to the even one. -/
def roundDiv (num den : Nat) : Nat :=
  let quotient := num / den
  let twice := 2 * (num % den)
  if twice < den then quotient
  else if den < twice then quotient + 1
  else quotient + quotient % 2

/-- The quotient `num / den` times 2 to the power `-exponent`, as a fraction. -/
def scaled (num den : Nat) (exponent : Int) : Nat × Nat :=
  (num * Nat.pow 2 (-exponent).toNat, den * Nat.pow 2 exponent.toNat)

/-- The exponent at which a positive quotient has a mantissa of 53 bits. -/
def exponentOf (num den : Nat) : Int :=
  let guess : Int := (num.log2 : Int) - den.log2 - 53
  let (n, d) := scaled num den guess
  if n < d * Nat.pow 2 53 then guess else guess + 1

/-- The double nearest to a quotient. -/
def ofRatio (negative : Bool) (num den : Nat) : Binary64 :=
  if num = 0 then signedZero negative
  else
    let exponent := max (exponentOf num den) (-1074)
    let (n, d) := scaled num den exponent
    let mantissa := roundDiv n d
    let (mantissa, exponent) :=
      if mantissa = Nat.pow 2 53 then (Nat.pow 2 52, exponent + 1) else (mantissa, exponent)
    if exponent > 971 then .infinite negative else .finite negative mantissa exponent

/-- The double nearest to `digits` times a power of ten. Beyond 310 places it is infinite, and
below 330 places it is zero, whatever the digits. -/
def ofDecimal (negative : Bool) (digits : Nat) (exponent : Int) : Binary64 :=
  let places : Int := (toString digits).length + exponent
  if digits = 0 ∨ places < -330 then signedZero negative
  else if places > 310 then .infinite negative
  else ofRatio negative (digits * Nat.pow 10 exponent.toNat) (Nat.pow 10 (-exponent).toNat)

/-- The value of a finite number as a numerator and a positive denominator. -/
def ratio? : Binary64 → Option (Int × Nat)
  | .finite negative mantissa exponent =>
      let size : Nat := mantissa * Nat.pow 2 exponent.toNat
      some (if negative then -size else size, Nat.pow 2 (-exponent).toNat)
  | _ => none

/-- The double nearest to a whole number. -/
def ofInt (n : Int) : Binary64 := ofRatio (n < 0) n.natAbs 1

/-- Changes the sign. -/
def neg : Binary64 → Binary64
  | .finite negative mantissa exponent => .finite (!negative) mantissa exponent
  | .infinite negative => .infinite (!negative)
  | .nan => .nan

/-- The double nearest to a fraction with a sign, zero being positive. -/
def ofFraction (num : Int) (den : Nat) : Binary64 := ofRatio (num < 0) num.natAbs den

/-- Addition, rounded. -/
def add (a b : Binary64) : Binary64 :=
  match a.ratio?, b.ratio? with
  | some (m, d), some (n, e) => ofFraction (m * e + n * d) (d * e)
  | none, some _ => a
  | some _, none => b
  | none, none => if a = b then a else .nan

/-- Multiplication by a positive finite double, rounded. -/
def scale (a factor : Binary64) : Binary64 :=
  match a, factor.ratio? with
  | .finite negative mantissa exponent, some (num, den) =>
      ofRatio negative (mantissa * num.natAbs * Nat.pow 2 exponent.toNat)
        (den * Nat.pow 2 (-exponent).toNat)
  | a, _ => a

/-- The whole number a double equals. -/
def toInt? (a : Binary64) : Option Int :=
  a.ratio?.bind fun (num, den) => if num % den = 0 then some (num / den) else none

/-- Whether a double has no value among the numbers. -/
def isFinite : Binary64 → Bool
  | .finite .. => true
  | _ => false

/-- Zero of either sign. -/
def isZero : Binary64 → Bool
  | .finite _ 0 _ => true
  | _ => false

/-- Same number: zeros of both signs agree, and so do two results that are not numbers. -/
def same (a b : Binary64) : Bool := a = b || (a.isZero && b.isZero)

/-- Compares with a whole number, exactly. What is not a number compares with nothing. -/
def compareInt? (a : Binary64) (n : Int) : Option Ordering :=
  match a with
  | .infinite negative => some (if negative then .lt else .gt)
  | .nan => none
  | a => a.ratio?.map fun (num, den) => compare num (n * den)

end Binary64

end PatchReview
