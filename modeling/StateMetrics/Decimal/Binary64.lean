import StateMetrics.Decimal.Word

/-!
# Binary floating point

A double is kept by its 64 bits, so that two doubles are equal exactly when their bits are, and
everything about its value is exact arithmetic on whole numbers. A finite double is
`significand · 2 ^ power`, negated when the sign bit is set; `ofRatio` is the double nearest to a
quotient, a tie going to the even significand.
-/

namespace StateMetrics

/-- A double-precision number, by its bits. -/
structure Binary64 where
  /-- Sign, eleven bits of exponent, fifty-two bits of fraction. -/
  bits : UInt64
  deriving DecidableEq, Repr, Inhabited

namespace Binary64

/-- The eleven bits of the exponent field. -/
def exponentField (x : Binary64) : Nat := (x.bits.toNat / Nat.pow 2 52) % Nat.pow 2 11

/-- The fifty-two bits of the fraction field. -/
def fraction (x : Binary64) : Nat := x.bits.toNat % Nat.pow 2 52

/-- Whether the sign bit is set; negative zero counts. -/
def isNegative (x : Binary64) : Bool := Nat.pow 2 63 ≤ x.bits.toNat

/-- Neither infinite nor a NaN. -/
def isFinite (x : Binary64) : Bool := x.exponentField ≠ 2047

/-- The whole number that a finite double multiplies with a power of two. -/
def significand (x : Binary64) : Nat :=
  if x.exponentField = 0 then x.fraction else Nat.pow 2 52 + x.fraction

/-- The power of two that a finite double multiplies with its significand. -/
def power (x : Binary64) : Int :=
  if x.exponentField = 0 then -1074 else (x.exponentField : Int) - 1075

/-- The bits of positive infinity; the finite magnitudes are the numbers below it. -/
def infinityBits : Nat := 2047 * Nat.pow 2 52

/-- The double of a sign and the bits of a magnitude. -/
def ofMagnitude (negative : Bool) (magnitude : Nat) : Binary64 :=
  ⟨UInt64.ofNat (if negative then Nat.pow 2 63 + magnitude else magnitude)⟩

/-- Infinity of the given sign. -/
def infinity (negative : Bool) : Binary64 := ofMagnitude negative infinityBits

/-- The quiet NaN. -/
def nan : Binary64 := ofMagnitude false (infinityBits + Nat.pow 2 51)

/-- Zero of the given sign. -/
def zero (negative : Bool) : Binary64 := ofMagnitude negative 0

/-- `num / den` to the nearest whole number, a half going to the even one. -/
def roundHalfEven (num den : Nat) : Nat :=
  let quotient := num / den
  let twice := 2 * (num % den)
  if twice < den then quotient
  else if den < twice then quotient + 1
  else quotient + quotient % 2

/-- `num / den` scaled by `2 ^ (-power)`, as a quotient of whole numbers. -/
def scaled (num den : Nat) (power : Int) : Nat × Nat :=
  if power < 0 then (num * Nat.pow 2 power.natAbs, den) else (num, den * Nat.pow 2 power.natAbs)

/-- The power of two whose multiples are the doubles next to `num / den`: the one that leaves a
significand of fifty-three bits, but none below the least. -/
def unitPower (num den : Nat) : Int :=
  let guess : Int := (num.log2 : Int) - (den.log2 : Int) - 52
  let (n, d) := scaled num den guess
  let power := if n < Nat.pow 2 52 * d then guess - 1 else guess
  max power (-1074)

/-- The double nearest to `num / den`. The bits of a magnitude grow by one from each double to the
next, so a significand that rounds up to fifty-four bits carries into the exponent by itself, and
a magnitude past the finite ones is infinity. -/
def ofRatio (negative : Bool) (num den : Nat) : Binary64 :=
  if num = 0 ∨ den = 0 then zero negative
  else
    let power := unitPower num den
    let (n, d) := scaled num den power
    let magnitude := (power + 1074).toNat * Nat.pow 2 52 + roundHalfEven n d
    ofMagnitude negative (min magnitude infinityBits)

/-- The double nearest to `digits · 10 ^ exponent`. Exponents far outside the range of doubles are
decided by the size alone, so no huge power is formed. -/
def ofDecimal (negative : Bool) (digits : Nat) (exponent : Int) : Binary64 :=
  let size : Int := (Nat.toDigits 10 digits).length + exponent
  if digits = 0 then zero negative
  else if size > 400 then infinity negative
  else if size < -400 then zero negative
  else if exponent < 0 then ofRatio negative digits (Nat.pow 10 exponent.natAbs)
  else ofRatio negative (digits * Nat.pow 10 exponent.natAbs) 1

end Binary64

end StateMetrics
