import StateMetrics.Decimal.Digits

/-!
# Points in time

A timestamp counts seconds and nanoseconds of universal time from the start of 1970, on the calendar
without its leap seconds: a leap second is the second before it with more than a thousand million
nanoseconds. `Timestamp.text` is its text in the profile of ISO 8601 that the internet uses.
-/

namespace StateMetrics

/-- A point in time. -/
structure Timestamp where
  /-- Seconds since the start of 1970, negative before it. -/
  seconds : Int
  /-- Nanoseconds of the second; those of a leap second go on past `10 ^ 9`. -/
  nanos : Nat
  deriving DecidableEq, Repr, Inhabited

namespace Timestamp

/-- Whether a year has a twenty-ninth of February. -/
def isLeapYear (year : Int) : Bool := year % 4 = 0 && (year % 100 ≠ 0 || year % 400 = 0)

/-- The number of days of a month. -/
def monthLength (year : Int) (month : Nat) : Nat :=
  if month = 2 then if isLeapYear year then 29 else 28
  else if [4, 6, 9, 11].contains month then 30
  else 31

/-- Days from the start of 1970 to a date. The year is taken to begin in March, so that the leap day
is its last. -/
def daysOfDate (year : Int) (month day : Nat) : Int :=
  let shifted := if month ≤ 2 then year - 1 else year
  let monthFromMarch : Int := ((month : Int) + 9) % 12
  let dayOfYear : Int := (153 * monthFromMarch + 2) / 5 + (day : Int) - 1
  365 * shifted + shifted / 4 - shifted / 100 + shifted / 400 + dayOfYear - 719468

/-- The year, month and day that lie so many days after the start of 1970. -/
def dateOfDays (days : Int) : Int × Nat × Nat :=
  let shifted := days + 719468
  let era := shifted / 146097
  let dayOfEra := shifted % 146097
  let yearOfEra := (dayOfEra - dayOfEra / 1460 + dayOfEra / 36524 - dayOfEra / 146096) / 365
  let dayOfYear := dayOfEra - (365 * yearOfEra + yearOfEra / 4 - yearOfEra / 100)
  let monthFromMarch := (5 * dayOfYear + 2) / 153
  let day := dayOfYear - (153 * monthFromMarch + 2) / 5 + 1
  let month := if monthFromMarch < 10 then monthFromMarch + 3 else monthFromMarch - 9
  let year := yearOfEra + era * 400 + if month ≤ 2 then 1 else 0
  (year, month.toNat, day.toNat)

/-- A number with zeros in front, up to a width. -/
def padded (width n : Nat) : List Char :=
  let digits := Decimal.natDigits n
  List.replicate (width - digits.length) '0' ++ digits

/-- A year of four digits, or with a sign and at least four where that is not enough. -/
def yearText (year : Int) : List Char :=
  if 0 ≤ year ∧ year ≤ 9999 then padded 4 year.toNat
  else (if year < 0 then '-' else '+') :: padded 4 year.natAbs

/-- The fraction of a second: none, or three, six or nine digits, as few as keep its value. -/
def fractionText (nanos : Nat) : List Char :=
  if nanos = 0 then []
  else if nanos % 1000000 = 0 then '.' :: padded 3 (nanos / 1000000)
  else if nanos % 1000 = 0 then '.' :: padded 6 (nanos / 1000)
  else '.' :: padded 9 nanos

/-- The date and time of day in universal time, the fraction as given. -/
def textWith (fraction : Nat → List Char) (t : Timestamp) : String :=
  let (year, month, day) := dateOfDays (t.seconds / 86400)
  let ofDay := (t.seconds % 86400).toNat
  let leap := 1000000000 ≤ t.nanos
  let second := ofDay % 60 + if leap then 1 else 0
  let nanos := if leap then t.nanos - 1000000000 else t.nanos
  String.ofList (yearText year ++ '-' :: padded 2 month ++ '-' :: padded 2 day ++ 'T' ::
    padded 2 (ofDay / 3600) ++ ':' :: padded 2 (ofDay / 60 % 60) ++ ':' :: padded 2 second
    ++ fraction nanos ++ ['Z'])

/-- The text of a timestamp. -/
def text (t : Timestamp) : String := t.textWith fractionText

/-- The text of a timestamp without its fraction. -/
def textInSeconds (t : Timestamp) : String := t.textWith fun _ => []

/-- The text of a timestamp with six digits of its fraction. -/
def textInMicroseconds (t : Timestamp) : String :=
  t.textWith fun nanos => '.' :: padded 6 (nanos / 1000)

/-- The point in time so many nanoseconds after the start of 1970. -/
def ofNanoseconds (nanos : Int) : Timestamp := ⟨nanos / 1000000000, (nanos % 1000000000).toNat⟩

end Timestamp

/-- A moment: a timestamp, or a tick of a logical clock, which only tells moments apart. -/
inductive Moment where
  | time (timestamp : Timestamp)
  | tick (number : Nat)
  deriving DecidableEq, Repr, Inhabited

namespace Moment

/-- The text of a tick. -/
def tickText (number : Nat) : String := "now@" ++ Decimal.natText number

/-- The text of a moment. -/
def text : Moment → String
  | time t => t.text
  | tick n => tickText n

/-- The text of a moment, a timestamp without its fraction. -/
def textInSeconds : Moment → String
  | time t => t.textInSeconds
  | tick n => tickText n

end Moment

end StateMetrics
