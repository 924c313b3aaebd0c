/-!
Dates of the proleptic Gregorian calendar, years 1 to 9999, and instants counted in seconds from
the start of 1970.
-/

namespace PatchReview.Calendar

/-- A day of the calendar. -/
structure Date where
  year : Nat
  month : Nat
  day : Nat
  deriving DecidableEq, Repr

/-- A time of day on a date, with the offset from universal time in seconds when one is known. -/
structure Moment where
  date : Date
  hour : Nat
  minute : Nat
  second : Nat
  microsecond : Nat
  offset : Option Int
  deriving DecidableEq, Repr

/-- Why numbers make no date, time or instant. -/
inductive Fault where
  | year (year : Int)
  | month
  | day
  | hour
  | minute
  | second
  /-- An offset of a day or more. -/
  | offset (seconds : Int)
  /-- A count of seconds beyond 64 bits. -/
  | tooFar
  /-- A count of seconds whose year does not fit 32 bits. -/
  | unrepresentable
  deriving DecidableEq, Repr

/-- An offset in days and seconds, as messages name it. -/
def offsetText (seconds : Int) : String :=
  let days := seconds / 86400
  let rest := seconds % 86400
  let parts := (if days = 0 then [] else ["days=" ++ toString days])
    ++ (if rest = 0 then [] else ["seconds=" ++ toString rest])
  "datetime.timedelta(" ++ ", ".intercalate parts ++ ")"

/-- What a message says of the fault. -/
def Fault.message : Fault → String
  | .year n => "year " ++ toString n ++ " is out of range"
  | .month => "month must be in 1..12"
  | .day => "day is out of range for month"
  | .hour => "hour must be in 0..23"
  | .minute => "minute must be in 0..59"
  | .second => "second must be in 0..59"
  | .offset seconds =>
      "offset must be a timedelta strictly between -timedelta(hours=24) and timedelta(hours=24), not "
        ++ offsetText seconds ++ "."
  | .tooFar => "timestamp out of range for platform time_t"
  | .unrepresentable => "[Errno 75] Value too large for defined data type"

/-- Leap years. -/
def isLeap (year : Nat) : Bool := year % 4 == 0 && (year % 100 != 0 || year % 400 == 0)

/-- The length of a month. -/
def daysIn (year month : Nat) : Nat :=
  if month = 2 then (if isLeap year then 29 else 28)
  else if month = 4 ∨ month = 6 ∨ month = 9 ∨ month = 11 then 30
  else 31

/-- A date from its numbers. -/
def Date.ofNumbers (year month day : Nat) : Except Fault Date :=
  if year < 1 ∨ 9999 < year then .error (.year year)
  else if month < 1 ∨ 12 < month then .error .month
  else if day < 1 ∨ daysIn year month < day then .error .day
  else .ok ⟨year, month, day⟩

/-- A moment from its numbers. The offset is looked at first. -/
def Moment.ofNumbers (year month day hour minute second microsecond : Nat) (offset : Option Int)
    : Except Fault Moment := do
  if let some seconds := offset then
    if seconds ≤ -86400 ∨ 86400 ≤ seconds then throw (.offset seconds)
  let date ← Date.ofNumbers year month day
  if 23 < hour then throw .hour
  if 59 < minute then throw .minute
  if 59 < second then throw .second
  return ⟨date, hour, minute, second, microsecond, offset⟩

/-- A number in at least `width` digits. -/
def padded (width n : Nat) : String :=
  let digits := toString n
  "".pushn '0' (width - digits.length) ++ digits

/-- The usual text of a date. -/
def Date.text (date : Date) : String :=
  padded 4 date.year ++ "-" ++ padded 2 date.month ++ "-" ++ padded 2 date.day

/-- The text of an offset: sign, hours and minutes, and seconds when there are any. -/
def offsetSuffix (offset : Option Int) : String :=
  match offset with
  | none => ""
  | some seconds =>
      let size := seconds.natAbs
      (if seconds < 0 then "-" else "+") ++ padded 2 (size / 3600) ++ ":"
        ++ padded 2 (size / 60 % 60) ++ (if size % 60 = 0 then "" else ":" ++ padded 2 (size % 60))

/-- The usual text of a moment, with `separator` between date and time. -/
def Moment.text (separator : String) (moment : Moment) : String :=
  moment.date.text ++ separator ++ padded 2 moment.hour ++ ":" ++ padded 2 moment.minute ++ ":"
    ++ padded 2 moment.second
    ++ (if moment.microsecond = 0 then "" else "." ++ padded 6 moment.microsecond)
    ++ offsetSuffix moment.offset

/-- The year, month and day of a day counted from the first of January 1970. Years may be zero or
negative. -/
def civil (days : Int) : Int × Nat × Nat :=
  let shifted := days + 719468
  let era := shifted / 146097
  let ofEra := shifted % 146097
  let yearOfEra := (ofEra - ofEra / 1460 + ofEra / 36524 - ofEra / 146096) / 365
  let ofYear := ofEra - (365 * yearOfEra + yearOfEra / 4 - yearOfEra / 100)
  let shiftedMonth := (5 * ofYear + 2) / 153
  let day := ofYear - (153 * shiftedMonth + 2) / 5 + 1
  let month := if shiftedMonth < 10 then shiftedMonth + 3 else shiftedMonth - 9
  (yearOfEra + era * 400 + (if month ≤ 2 then 1 else 0), month.toNat, day.toNat)

/-- The number of a day, counted from the first of January 1970. -/
def Date.dayNumber (date : Date) : Int :=
  let year : Int := if date.month ≤ 2 then date.year - 1 else date.year
  let shiftedMonth := (date.month + 9) % 12
  let ofYear : Int := (153 * shiftedMonth + 2) / 5 + date.day - 1
  year * 365 + year / 4 - year / 100 + year / 400 + ofYear - 719468

/-- The microseconds from the start of 1970 to a moment, in universal time when its offset is known,
as its own clock shows them otherwise. -/
def Moment.count (moment : Moment) : Int :=
  let seconds := moment.date.dayNumber * 86400 + (moment.hour * 60 + moment.minute) * 60
    + moment.second - moment.offset.getD 0
  seconds * 1000000 + moment.microsecond

/-- Same moment: offsets are known for both or for neither, and the counts agree. -/
def Moment.same (a b : Moment) : Bool := a.offset.isSome == b.offset.isSome && a.count == b.count

/-- An instant that has a date. -/
structure Instant where
  seconds : Int
  deriving DecidableEq, Repr

/-- Counts of seconds are signed numbers of 64 bits and below this. -/
def secondsBound : Int := 9223372036854775808

/-- Counts of years are signed numbers of 32 bits and below this. -/
def yearBound : Nat := 2147483648

/-- The year of an instant, as a 32 bit number counts it. -/
def yearOf (seconds : Int) : Int := Int.bmod (civil (seconds / 86400)).1 (2 * yearBound)

/-- The instant at a count of seconds. Its date, and the date a day before, have to exist. -/
def Instant.ofSeconds (seconds : Int) : Except Fault Instant :=
  if seconds < -secondsBound ∨ secondsBound ≤ seconds then .error .tooFar
  else
    let years := (civil (seconds / 86400)).1 - 1900
    if years < -(yearBound : Int) ∨ (yearBound : Int) ≤ years then .error .unrepresentable
    else if yearOf seconds < 1 ∨ 9999 < yearOf seconds then .error (.year (yearOf seconds))
    else if yearOf (seconds - 86400) < 1 then .error (.year (yearOf (seconds - 86400)))
    else .ok ⟨seconds⟩

/-- The moment in universal time at a count of seconds, and microseconds after it. -/
def Moment.ofSeconds (seconds : Int) (microsecond : Nat) : Moment :=
  let (year, month, day) := civil (seconds / 86400)
  let rest := (seconds % 86400).toNat
  ⟨⟨year.toNat, month, day⟩, rest / 3600, rest / 60 % 60, rest % 60, microsecond, some 0⟩

/-- The moment of an instant, in universal time. -/
def Instant.moment (instant : Instant) : Moment := Moment.ofSeconds instant.seconds 0

/-- The usual text of an instant, in universal time. -/
def Instant.text (instant : Instant) : String :=
  { instant.moment with offset := none }.text " "

end PatchReview.Calendar
