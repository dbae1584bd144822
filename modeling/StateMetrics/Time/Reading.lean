import StateMetrics.Decimal.Word
import StateMetrics.Text.Blank
import StateMetrics.Time.Timestamp

/-!
# Reading timestamps

A date, a `T` or a space, a time of day and an offset from universal time. Blanks may stand around
the separators and before the offset; the fraction of a second may have any number of digits, of
which nine count.
-/

namespace StateMetrics.Timestamp

/-- Why a text is no timestamp. -/
inductive Fault where
  | outOfRange
  | invalid
  | tooShort
  | trailing
  /-- The offset from universal time leads out of the calendar. -/
  | impossible
  deriving DecidableEq, Repr

/-- The text of a fault. -/
def Fault.message : Fault → String
  | outOfRange => "input is out of range"
  | invalid => "input contains invalid characters"
  | tooShort => "premature end of input"
  | trailing => "trailing input"
  | impossible => "no possible date and time matching input"

/-- A reading step: what it found and the text behind it. -/
abbrev Step (α : Type) := List Char → Except Fault (α × List Char)

/-- The text without the white space at its front. -/
def skipBlanks (text : List Char) : List Char := text.dropWhile Text.isBlank

/-- The largest number that is read. -/
def maxNumber : Nat := wordSize 63 - 1

/-- A number of at most `width` digits, at least one, behind blanks. -/
def digits (width : Nat) : Step Nat := fun text =>
  match text with
  | [] => .error .tooShort
  | _ =>
    let found := (text.take width).takeWhile Char.isDigit
    let value := Decimal.accumulate 0 found
    if found = [] then .error .invalid
    else if maxNumber < value then .error .outOfRange
    else .ok (value, text.drop found.length)

/-- A number in a range, behind blanks. -/
def within (width low high : Nat) : Step Nat := fun text => do
  let (value, rest) ← digits width (skipBlanks text)
  if value < low ∨ high < value then .error .outOfRange else .ok (value, rest)

/-- A year: four digits at most, or a sign and any number of digits. -/
def year : Step Int := fun text =>
  match skipBlanks text with
  | '-' :: rest => do
    let (value, rest) ← digits rest.length rest
    pure (-(value : Int), rest)
  | '+' :: rest => do
    let (value, rest) ← digits rest.length rest
    pure ((value : Int), rest)
  | rest => do
    let (value, rest) ← digits 4 rest
    pure ((value : Int), rest)

/-- A separator, behind blanks. -/
def separator (c : Char) : List Char → Except Fault (List Char) := fun text =>
  match skipBlanks text with
  | [] => .error .tooShort
  | d :: rest => if d = c then .ok rest else .error .invalid

/-- The fraction of a second, in nanoseconds, if a point stands here. -/
def fraction : Step Nat := fun text =>
  match text with
  | '.' :: rest => do
    let (value, after) ← digits 9 rest
    let places := rest.length - after.length
    pure (value * Nat.pow 10 (9 - places), after.dropWhile Char.isDigit)
  | rest => .ok (0, rest)

/-- The two characters at the front. A single character of several bytes is no digit; one of a
single byte leaves the text short. -/
def pair : Step (Char × Char) := fun text =>
  match text with
  | a :: b :: rest => .ok ((a, b), rest)
  | [a] => .error (if 1 < a.utf8Size then .invalid else .tooShort)
  | [] => .error .tooShort

/-- The value of a digit. -/
def digitOf (c : Char) : Nat := c.toNat - '0'.toNat

/-- Hours and minutes of an offset, in seconds; colons and blanks may stand between them. -/
def offsetSize : Step Nat := fun text => do
  let ((a, b), rest) ← pair text
  if !(a.isDigit && b.isDigit) then .error .invalid
  let ((c, d), rest) ← pair (rest.dropWhile fun c => c = ':' || Text.isBlank c)
  if !(c.isDigit && d.isDigit) then .error .invalid
  if '5' < c then .error .outOfRange
  pure ((10 * digitOf a + digitOf b) * 3600 + (10 * digitOf c + digitOf d) * 60, rest)

/-- An offset from universal time in seconds: a letter or word for none, or a sign with hours and
minutes. -/
def offset : Step Int := fun text =>
  if (text.take 3).map Char.toUpper = ['U', 'T', 'C'] then .ok (0, text.drop 3)
  else match text with
    | 'Z' :: rest => .ok (0, rest)
    | 'z' :: rest => .ok (0, rest)
    | '+' :: rest => (offsetSize rest).map fun (size, rest) => ((size : Int), rest)
    | '-' :: rest => (offsetSize rest).map fun (size, rest) => (-(size : Int), rest)
    | '−' :: rest => (offsetSize rest).map fun (size, rest) => (-(size : Int), rest)
    | [] => .error .tooShort
    | _ => .error .invalid

/-- The first year of the calendar. -/
def minYear : Int := -262143

/-- The last year of the calendar. -/
def maxYear : Int := 262142

/-- Whether the calendar has a day, counted from the start of 1970. -/
def onCalendar (day : Int) : Bool :=
  daysOfDate minYear 1 1 ≤ day && day ≤ daysOfDate maxYear 12 31

/-- The timestamp that a text writes. The whole text is read before the date is looked at. -/
def read (text : String) : Except Fault Timestamp := do
  let (year, rest) ← year text.toList
  if year < -(wordSize 31 : Int) ∨ (wordSize 31 : Int) ≤ year then .error .outOfRange
  let rest ← separator '-' rest
  let (month, rest) ← within 2 1 12 rest
  let rest ← separator '-' rest
  let (day, rest) ← within 2 1 31 rest
  let rest ← match rest with
    | [] => .error .tooShort
    | c :: rest => if c = 't' || c = 'T' || c = ' ' then .ok rest else .error .invalid
  let (hour, rest) ← within 2 0 23 rest
  let rest ← separator ':' rest
  let (minute, rest) ← within 2 0 59 rest
  let rest ← separator ':' rest
  let (second, rest) ← within 2 0 60 rest
  let (nanos, rest) ← fraction rest
  let (shift, rest) ← offset (skipBlanks rest)
  if skipBlanks rest ≠ [] then .error .trailing
  if year < minYear ∨ maxYear < year ∨ monthLength year month < day ∨ shift.natAbs ≥ 86400 then
    .error .outOfRange
  let leap := if second = 60 then 1 else 0
  let ofDay : Int := hour * 3600 + minute * 60 + ((second - leap : Nat) : Int)
  let seconds := daysOfDate year month day * 86400 + ofDay - shift
  if !onCalendar (seconds / 86400) then .error .impossible
  pure ⟨seconds, nanos + leap * 1000000000⟩

end StateMetrics.Timestamp
