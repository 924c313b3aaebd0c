import PatchReview.Calendar
import PatchReview.Encoding.Utf8
import PatchReview.Json.Parser

/-!
Moments in requests. A text is a date with a time of day, a count of seconds or milliseconds since
the start of 1970, or a date alone. What is wrong with a text is said of the date it would be.
-/

namespace PatchReview.TimeText

open PatchReview.Calendar

/-- Why a text or a number is no moment. -/
inductive Fault where
  | short
  | trailing
  | separator
  | yearDigit
  | monthDigit
  | dayDigit
  | month
  | day
  | early
  | late
  deriving DecidableEq, Repr

/-- What a message says of the fault. -/
def Fault.message : Fault → String
  | .short => "input is too short"
  | .trailing => "unexpected extra characters at the end of the input"
  | .separator => "invalid date separator, expected \x60-\x60"
  | .yearDigit => "invalid character in year"
  | .monthDigit => "invalid character in month"
  | .dayDigit => "invalid character in day"
  | .month => "month value is outside expected range of 1-12"
  | .day => "day value is outside expected range"
  | .early => "dates before 0000 are not supported as unix timestamps"
  | .late => "dates after 9999 are not supported as unix timestamps"

/-- A text's bytes, each as one character. -/
def units (text : String) : List Char := (Utf8.encode text).map fun b => Char.ofNat b.toNat

/-- The number that a fixed count of digits at the start of a text is. -/
def fixed? (count : Nat) (cs : List Char) : Option Nat :=
  let digits := cs.take count
  if digits.length = count ∧ digits.all Json.isAsciiDigit then
    some (Text.digitsValue (Json.digitValues digits))
  else none

/-- Takes a date of ten characters. The year may be zero. -/
def takeDate (cs : List Char) : Except Fault (Date × List Char) := do
  if cs.length < 10 then throw .short
  let some year := fixed? 4 cs | throw .yearDigit
  if cs[4]? != some '-' then throw .separator
  let some month := fixed? 2 (cs.drop 5) | throw .monthDigit
  if cs[7]? != some '-' then throw .separator
  let some day := fixed? 2 (cs.drop 8) | throw .dayDigit
  if month < 1 ∨ 12 < month then throw .month
  if day < 1 ∨ daysIn year month < day then throw .day
  return (⟨year, month, day⟩, cs.drop 10)

/-- Takes the digits of a fraction of a second, as microseconds. Further digits are cut off. -/
def takeFraction? : List Char → Option (Nat × List Char)
  | mark :: rest =>
      if mark == '.' || mark == ',' then
        let digits := rest.takeWhile Json.isAsciiDigit
        let kept := digits.take 6
        if digits.isEmpty then none
        else some (Text.digitsValue (Json.digitValues kept) * Nat.pow 10 (6 - kept.length),
          rest.drop digits.length)
      else some (0, mark :: rest)
  | [] => some (0, [])

/-- A time of day: hour, minute, second and microsecond. -/
abbrev Clock := Nat × Nat × Nat × Nat

/-- Takes a time of day. Seconds may be left out. -/
def takeClock? (cs : List Char) : Option (Clock × List Char) := do
  let hour ← fixed? 2 cs
  if cs[2]? != some ':' then none
  let minute ← fixed? 2 (cs.drop 3)
  if 23 < hour ∨ 59 < minute then none
  match cs.drop 5 with
  | ':' :: rest =>
      let second ← fixed? 2 rest
      if 59 < second then none
      let (micro, rest) ← takeFraction? (rest.drop 2)
      return ((hour, minute, second, micro), rest)
  | rest => return ((hour, minute, 0, 0), rest)

/-- Takes the sign of an offset, which is true for minus. -/
def takeSign? : List Char → Option (Bool × List Char)
  | '+' :: rest => some (false, rest)
  | '-' :: rest => some (true, rest)
  | '\xe2' :: '\x88' :: '\x92' :: rest => some (true, rest)
  | _ => none

/-- Reads the offset that ends a text, if it has one. It is less than a day. -/
def offset? : List Char → Option (Option Int)
  | [] => some none
  | ['Z'] | ['z'] => some (some 0)
  | cs => do
      let (west, rest) ← takeSign? cs
      let hours ← fixed? 2 rest
      let rest := rest.drop 2
      let rest := if rest.head? == some ':' then rest.drop 1 else rest
      let minutes ← fixed? 2 rest
      let seconds : Int := (hours * 60 + minutes) * 60
      if rest.length != 2 || 59 < minutes || 86400 ≤ seconds then none
      else some (some (if west then -seconds else seconds))

/-- Reads a date with a time of day. -/
def moment? (cs : List Char) : Option Moment := do
  let (date, rest) ← (takeDate cs).toOption
  let separator :: rest := rest | none
  if !(['T', 't', ' ', '_'].contains separator) then none
  let ((hour, minute, second, micro), rest) ← takeClock? rest
  return ⟨date, hour, minute, second, micro, ← offset? rest⟩

/-- Reads a date alone. -/
def date (cs : List Char) : Except Fault Date := do
  let (date, rest) ← takeDate cs
  if rest.isEmpty then return date else throw .trailing

/-- Counts beyond this are milliseconds. -/
def watershed : Int := 20000000000

/-- The first second of the year zero. -/
def firstSecond : Int := -62167219200

/-- The last second of the year 9999. -/
def lastSecond : Int := 253402300799

/-- The moment so many seconds and microseconds after the start of 1970. -/
def ofSeconds (seconds : Int) (micro : Nat) : Except Fault Moment :=
  let seconds := seconds + micro / 1000000
  if seconds < firstSecond then .error .early
  else if lastSecond < seconds then .error .late
  else .ok (Moment.ofSeconds seconds (micro % 1000000))

/-- The moment so many milliseconds and microseconds after the start of 1970. -/
def ofMillis (millis : Int) (micro : Nat) : Except Fault Moment :=
  ofSeconds (millis / 1000) ((millis % 1000).toNat * 1000 + micro)

/-- The moment at a whole count of seconds or milliseconds. -/
def ofCount (count : Int) : Except Fault Moment :=
  if watershed < count.natAbs then ofMillis count 0 else ofSeconds count 0

/-- A fraction of a unit, rounded to a whole number of microseconds, of which the unit has some. -/
def micros (fraction : Binary64) (unit : Int) : Nat :=
  match (fraction.scale (.ofInt unit)).ratio? with
  | some (num, den) => (2 * num.natAbs + den) / (2 * den)
  | none => 0

/-- The moment that a double counts to. Its fraction is one of a second or of a millisecond. -/
def ofReal (x : Binary64) : Except Fault Moment :=
  match x.ratio? with
  | none => .error (if x == .infinite true then .early else .late)
  | some (num, den) =>
      let fraction := Binary64.ofFraction (num % den) den
      if watershed * den < num.natAbs then ofMillis (num / den) (micros fraction 1000)
      else ofSeconds (num / den) (micros fraction 1000000)

/-- A count as a text spells it. -/
inductive Count where
  | whole (n : Int)
  | real (x : Binary64)

/-- Whole numbers of a text, and what stands before a point, are below this. -/
def wholeBound : Nat := 9223372036854775808

/-- The double that a text spells in ASCII digits, with a point and an exponent if it has them. -/
def real? (cs : List Char) : Option Binary64 :=
  if cs.all fun c => Json.isAsciiDigit c || "+-.eE".toList.contains c then
    Binary64.ofText? (String.ofList cs)
  else none

/-- Reads a count. Digits alone are a whole number, and only a point makes another number of it. -/
def count? (cs : List Char) : Option Count :=
  let (negative, body) := Integer.takeSign cs
  let digits := body.takeWhile Json.isAsciiDigit
  let size := Text.digitsValue (Json.digitValues digits)
  match body.drop digits.length with
  | [] =>
      if digits.isEmpty || wholeBound ≤ size then none
      else some (.whole (if negative then -size else size))
  | '.' :: _ => if wholeBound ≤ size then none else (real? cs).map .real
  | _ => none

/-- The moment at a count. -/
def Count.moment : Count → Except Fault Moment
  | .whole n => ofCount n
  | .real x => ofReal x

/-- Reads a date alone. A whole number that is no moment is no date for the same reason. -/
def midnight (cs : List Char) : Except Fault Moment :=
  match date cs, count? cs with
  | .ok date, _ => .ok ⟨date, 0, 0, 0, 0, none⟩
  | .error _, some (.whole n) => ofCount n
  | .error fault, _ => .error fault

/-- Reads a text. -/
def read (text : String) : Except Fault Moment :=
  let cs := units text
  match moment? cs with
  | some moment => .ok moment
  | none =>
      match (count? cs).map Count.moment with
      | some (.ok moment) => .ok moment
      | _ => midnight cs

/-- The text of a moment in an answer. -/
def write (moment : Moment) : String :=
  if moment.offset = some 0 then { moment with offset := none }.text "T" ++ "Z" else moment.text "T"

end PatchReview.TimeText
