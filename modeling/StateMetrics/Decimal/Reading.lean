import StateMetrics.Decimal.Binary64
import StateMetrics.Decimal.Digits

/-!
# Decimal numerals

A numeral splits into a whole part, a fraction and an exponent. `Numeral.read?` takes one off the
front of a text; what the formats ask beyond that (which parts may be empty, which signs may stand
in front) they check on the parts.
-/

namespace StateMetrics.Decimal

/-- The parts of a decimal numeral without its sign. -/
structure Numeral where
  /-- The digits before the point. -/
  whole : List Char
  /-- The digits after the point; nothing when there is no point. -/
  fraction : Option (List Char)
  /-- The sign and the digits after the exponent mark; nothing when there is no mark. -/
  exponent : Option (Bool × List Char)
  deriving DecidableEq, Repr

namespace Numeral

/-- The exponent part at the front of a text, if a mark stands there, and what follows it. -/
def takeExponent : List Char → Option (Bool × List Char) × List Char
  | [] => (none, [])
  | mark :: rest =>
    if mark = 'e' ∨ mark = 'E' then
      let (negative, digits) := match rest with
        | '-' :: r => (true, r)
        | '+' :: r => (false, r)
        | r => (false, r)
      (some (negative, digits.takeWhile Char.isDigit), digits.dropWhile Char.isDigit)
    else (none, mark :: rest)

/-- The numeral at the front of a text and what follows it. Every part may be empty. -/
def take (text : List Char) : Numeral × List Char :=
  let whole := text.takeWhile Char.isDigit
  let rest := text.dropWhile Char.isDigit
  let (fraction, rest) := match rest with
    | '.' :: r => (some (r.takeWhile Char.isDigit), r.dropWhile Char.isDigit)
    | r => (none, r)
  let (exponent, rest) := takeExponent rest
  (⟨whole, fraction, exponent⟩, rest)

/-- An exponent mark is followed by at least one digit. -/
def exponentComplete (n : Numeral) : Bool :=
  match n.exponent with
  | some (_, digits) => digits ≠ []
  | none => true

/-- The double nearest to the numeral's value. -/
def toBinary64 (negative : Bool) (n : Numeral) : Binary64 :=
  let fraction := n.fraction.getD []
  let exponent : Int := match n.exponent with
    | none => 0
    | some (true, digits) => -(accumulate 0 digits : Int)
    | some (false, digits) => accumulate 0 digits
  Binary64.ofDecimal negative (accumulate 0 (n.whole ++ fraction)) (exponent - fraction.length)

end Numeral

/-- Compares two texts of ASCII letters without regard to case; `word` is in lower case. -/
def sameWord (word text : List Char) : Bool := text.map Char.toLower = word

/-- Reads a double: an optional sign, then digits with an optional point and exponent, or one of the
words for infinity and NaN in any case. At least one digit stands around the point. -/
def realOf? (text : List Char) : Option Binary64 :=
  let (negative, body) := match text with
    | '-' :: r => (true, r)
    | '+' :: r => (false, r)
    | r => (false, r)
  if sameWord "inf".toList body || sameWord "infinity".toList body then
    some (Binary64.infinity negative)
  else if sameWord "nan".toList body then some Binary64.nan
  else
    let (n, rest) := Numeral.take body
    if rest = [] ∧ (n.whole ≠ [] ∨ n.fraction.getD [] ≠ []) ∧ n.exponentComplete then
      some (n.toBinary64 negative)
    else none

end StateMetrics.Decimal
