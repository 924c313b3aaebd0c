import PatchReview.Number.Integer
import PatchReview.Number.Shortest

/-!
Doubles as text: written in the fewest digits that read back, positional from 0.0001 to below
10^16 and with an exponent otherwise; read with blanks, a sign and underscores between digits.
-/

namespace PatchReview.Binary64

open PatchReview.Text

/-- The spellings of what is not a finite number. -/
structure Specials where
  infinity : String
  minusInfinity : String
  nan : String

/-- The spellings in messages. -/
def plainSpecials : Specials := ⟨"inf", "-inf", "nan"⟩

/-- Text from digits whose first one stands for `10 ^ power`. -/
def layout (digits : List Char) (power : Int) : List Char :=
  let count : Int := digits.length
  if power < -4 ∨ 16 ≤ power then
    let fraction := match digits.drop 1 with
      | [] => []
      | more => '.' :: more
    let size := (toString power.natAbs).toList
    let size := if size.length < 2 then '0' :: size else size
    digits.take 1 ++ fraction ++ 'e' :: (if power < 0 then '-' else '+') :: size
  else if power < 0 then '0' :: '.' :: List.replicate (-power - 1).toNat '0' ++ digits
  else if count ≤ power + 1 then
    digits ++ List.replicate (power + 1 - count).toNat '0' ++ ['.', '0']
  else digits.take (power + 1).toNat ++ '.' :: digits.drop (power + 1).toNat

/-- A decimal's digits without the zeros at the end, and the power of ten of the first one. -/
def significant (decimal : Decimal) : List Char × Int :=
  let all := (toString decimal.digits).toList
  let digits := (all.reverse.dropWhile (· == '0')).reverse
  (digits, decimal.exponent + all.length - 1)

/-- Writes a double. -/
def text (specials : Specials) : Binary64 → String
  | .nan => specials.nan
  | .infinite negative => if negative then specials.minusInfinity else specials.infinity
  | .finite negative mantissa exponent =>
      let body :=
        if mantissa = 0 then ['0', '.', '0']
        else
          let (digits, power) := significant (shortest mantissa exponent)
          layout digits power
      String.ofList (if negative then '-' :: body else body)

/-- Reads the parts of a decimal: digits before and after the point, and the exponent. -/
def ofParts (negative : Bool) (whole fraction : List Nat) (exponent : Int) : Binary64 :=
  let digits := (whole ++ fraction).dropWhile (· == 0)
  ofDecimal negative (digitsValue digits) (exponent - fraction.length)

/-- The digits at the start of a text. -/
def takeDigits (cs : List Char) : List Nat × List Char :=
  ((cs.takeWhile isDigit).filterMap digitValue?, cs.dropWhile isDigit)

/-- Reads an exponent, if the text has one. -/
def takeExponent (cs : List Char) : Int × List Char :=
  match cs with
  | mark :: rest =>
      if mark == 'e' || mark == 'E' then
        let (negative, body) := Integer.takeSign rest
        match takeDigits body with
        | ([], _) => (0, cs)
        | (digits, after) =>
            let size : Int := digitsValue digits
            (if negative then -size else size, after)
      else (0, cs)
  | [] => (0, [])

/-- Removes the underscores, each of which has to stand between two digits. -/
def dropUnderscores? (before : Bool) : List Char → Option (List Char)
  | [] => some []
  | c :: rest =>
      if c == '_' then
        if before && (rest.head?.any isDigit) then dropUnderscores? false rest else none
      else (dropUnderscores? (isDigit c) rest).map (c :: ·)

/-- Reads a double from an unsigned text without underscores. -/
def ofUnsigned? (negative : Bool) (cs : List Char) : Option Binary64 :=
  let word := String.ofList (cs.map Char.toLower)
  if word = "inf" ∨ word = "infinity" then some (.infinite negative)
  else if word = "nan" then some .nan
  else
    let (whole, rest) := takeDigits cs
    let (fraction, rest) := match rest with
      | '.' :: more => takeDigits more
      | _ => ([], rest)
    let (exponent, rest) := takeExponent rest
    if (whole.isEmpty && fraction.isEmpty) || !rest.isEmpty then none
    else some (ofParts negative whole fraction exponent)

/-- Reads a double. -/
def ofText? (s : String) : Option Binary64 := do
  let cs ← dropUnderscores? false (Integer.trimMargins s.toList)
  let (negative, body) := Integer.takeSign cs
  ofUnsigned? negative body

end PatchReview.Binary64
