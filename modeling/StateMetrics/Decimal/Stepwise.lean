import StateMetrics.Decimal.Reading
import StateMetrics.Decimal.Word

/-!
# Numerals read step by step

The double of a numeral, found with machine words alone: as many leading digits as 64 bits hold make
a double, which a power of ten scales, and every step rounds. A short numeral of moderate size gives
the double nearest to it, any other may give one a few places off.
-/

namespace StateMetrics

namespace Binary64

/-- The double nearest to `num · 2 ^ power / den`. -/
def ofScaledRatio (negative : Bool) (num den : Nat) (power : Int) : Binary64 :=
  if power < 0 then ofRatio negative num (den * Nat.pow 2 power.natAbs)
  else ofRatio negative (num * Nat.pow 2 power.natAbs) den

/-- The product of two finite doubles, rounded. -/
def times (x y : Binary64) : Binary64 :=
  ofScaledRatio (x.isNegative != y.isNegative) (x.significand * y.significand) 1 (x.power + y.power)

/-- The quotient of two finite doubles, rounded; the second is not zero. -/
def dividedBy (x y : Binary64) : Binary64 :=
  ofScaledRatio (x.isNegative != y.isNegative) x.significand y.significand (x.power - y.power)

/-- The largest power of ten that a double can scale by. -/
def maxPlaces : Nat := 308

/-- The double nearest to a power of ten. -/
def tenTo (places : Nat) : Binary64 := ofDecimal false 1 places

/-- The double scaled up by a power of ten, if the result is finite. -/
def scaledUp? (x : Binary64) (places : Nat) : Option Binary64 :=
  if x.significand = 0 then some x
  else if places ≤ maxPlaces then some (x.times (tenTo places)) |>.filter isFinite
  else none

/-- The double scaled down by a power of ten, in at most so many steps. -/
def scaledDown (x : Binary64) (places : Nat) : Nat → Binary64
  | 0 => x
  | steps + 1 =>
    if x.significand = 0 then x
    else if places ≤ maxPlaces then x.dividedBy (tenTo places)
    else (x.dividedBy (tenTo maxPlaces)).scaledDown (places - maxPlaces) steps

end Binary64

namespace Decimal

/-- Leading digits of a numeral as a word, and by how many places the rest shifts it. -/
structure Leading where
  value : Nat
  /-- How many digits before the point were left out. -/
  skipped : Nat
  /-- How many digits after the point were taken. -/
  taken : Nat
  /-- Whether a digit after the point was left out. -/
  full : Bool
  deriving DecidableEq, Repr, Inhabited

namespace Leading

/-- The word with a digit more, if it is still a word. -/
def extended? (l : Leading) (digit : Char) : Option Nat :=
  some (10 * l.value + (digit.toNat - '0'.toNat)) |>.filter (· < wordSize 64)

/-- Takes in a digit before the point. Once one was left out, all are. -/
def addWhole (l : Leading) (digit : Char) : Leading :=
  match if l.skipped = 0 then l.extended? digit else none with
  | some value => { l with value }
  | none => { l with skipped := l.skipped + 1 }

/-- Takes in a digit after the point. Once one was left out, all are. -/
def addFraction (l : Leading) (digit : Char) : Leading :=
  match if l.full then none else l.extended? digit with
  | some value => { l with value, taken := l.taken + 1 }
  | none => { l with full := true }

end Leading

/-- The leading digits of a numeral. -/
def Numeral.leading (n : Numeral) : Leading :=
  (n.fraction.getD []).foldl Leading.addFraction (n.whole.foldl Leading.addWhole ⟨0, 0, 0, false⟩)

/-- How many steps scale the largest word down to nothing. -/
def scalingSteps : Nat := 4

/-- The double of a numeral, read step by step; none if it is too large. -/
def Numeral.stepwise? (negative : Bool) (n : Numeral) : Option Binary64 :=
  let leading := n.leading
  let exponent : Int := match n.exponent with
    | none => 0
    | some (true, digits) => -(accumulate 0 digits : Int)
    | some (false, digits) => accumulate 0 digits
  let shift : Int := exponent + leading.skipped - leading.taken
  let start := Binary64.ofRatio negative leading.value 1
  if shift < 0 then some (start.scaledDown shift.natAbs scalingSteps)
  else start.scaledUp? shift.natAbs

end Decimal

end StateMetrics
