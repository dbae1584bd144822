/-!
# Decimal digits

Whole numbers as runs of decimal digits, both ways. `ofDigits?` accepts exactly the non-empty runs
of ASCII digits; `natText` writes no leading zero.
-/

namespace StateMetrics.Decimal

/-- The value of a run of digits that continues the number `acc`. -/
def accumulate (acc : Nat) (digits : List Char) : Nat :=
  digits.foldl (fun n c => 10 * n + (c.toNat - '0'.toNat)) acc

/-- The value of a non-empty run of ASCII digits; nothing for any other text. -/
def ofDigits? (text : List Char) : Option Nat :=
  if text ≠ [] ∧ text.all Char.isDigit then some (accumulate 0 text) else none

/-- The digits of a whole number, without a leading zero (zero itself is one digit). -/
def natDigits (n : Nat) : List Char := Nat.toDigits 10 n

/-- The decimal text of a whole number. -/
def natText (n : Nat) : String := String.ofList (natDigits n)

/-- The digits of an integer, with a minus sign below zero. -/
def intDigits (i : Int) : List Char :=
  if i < 0 then '-' :: natDigits i.natAbs else natDigits i.natAbs

/-- The decimal text of an integer, with a minus sign below zero. -/
def intText (i : Int) : String := String.ofList (intDigits i)

/-- The value of a run of digits after at most one sign; nothing for any other text. -/
def ofSigned? : List Char → Option Int
  | '-' :: digits => (ofDigits? digits).map fun n => -(n : Int)
  | '+' :: digits => (ofDigits? digits).map fun n => (n : Int)
  | digits => (ofDigits? digits).map fun n => (n : Int)

end StateMetrics.Decimal
