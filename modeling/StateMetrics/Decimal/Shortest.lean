import StateMetrics.Decimal.Binary64

/-!
# Shortest decimal text of a double

`Binary64.shortest` finds the fewest digits that read back as the same double and, among those, the
nearest to it. The reals that round to `m · 2 ^ q` form an interval around it, its ends included
exactly when `m` is even; for one digit, two digits and so on the two decimals next to the value are
tried against that interval.

`Layout` holds the choices that a format leaves open once the digits are known.
-/

namespace StateMetrics

/-- Decimal digits `d₁d₂…dₙ` with the point: the value is `0.d₁d₂…dₙ · 10 ^ point`. -/
structure DecimalDigits where
  /-- The digits as a whole number. -/
  digits : Nat
  /-- How many places the point stands to the right of the first digit's left side. -/
  point : Int
  deriving DecidableEq, Repr

namespace Binary64

/-- The interval of reals that round to a positive finite double, in quarters of its unit, as
`(low, value, high, ends included)`. Below a power of two the doubles lie twice as close. -/
def roundingInterval (x : Binary64) : Nat × Nat × Nat × Bool :=
  let m := x.significand
  let low := if x.fraction = 0 ∧ x.exponentField > 1 then 4 * m - 1 else 4 * m - 2
  (low, 4 * m, 4 * m + 2, m % 2 = 0)

/-- The decimal exponent `e` with `10 ^ (e - 1) ≤ num / den < 10 ^ e`. -/
def decimalSize (num den : Nat) : Int :=
  let estimate : Int := ((num.log2 : Int) - (den.log2 : Int)) * 30103 / 100000
  let atLeast (e : Int) : Bool :=
    if e < 0 then den ≤ num * Nat.pow 10 e.natAbs else den * Nat.pow 10 e.natAbs ≤ num
  let candidates := [estimate + 2, estimate + 1, estimate, estimate - 1]
  match candidates.find? atLeast with
  | some e => e + 1
  | none => estimate - 1

/-- The whole numbers next to `num / den · 10 ^ places`, with the scaled quotient itself. -/
def onGrid (num den : Nat) (places : Int) : Nat × Nat × Nat :=
  let n := if places < 0 then num else num * Nat.pow 10 places.natAbs
  let d := if places < 0 then den * Nat.pow 10 places.natAbs else den
  (n / d, n, d)

/-- The decimal of `count` digits that lies in the rounding interval and next to the value, if
there is one: of two the nearer, of two equally near the even one. -/
def shortestOf (x : Binary64) (count : Nat) : Option DecimalDigits :=
  let (low, value, high, closed) := x.roundingInterval
  let shift : Int := x.power - 2
  let scale (m : Nat) : Nat × Nat :=
    if shift < 0 then (m, Nat.pow 2 shift.natAbs) else (m * Nat.pow 2 shift.natAbs, 1)
  let (num, den) := scale value
  let size := decimalSize num den
  let places : Int := count - size
  let (below, n, d) := onGrid num den places
  let inside (candidate : Nat) : Bool :=
    let bound (m : Nat) : Nat :=
      let (mn, _) := scale m
      if places < 0 then mn else mn * Nat.pow 10 places.natAbs
    if closed then bound low ≤ candidate * d && candidate * d ≤ bound high
    else bound low < candidate * d && candidate * d < bound high
  let above := below + 1
  let belowFits := inside below
  let aboveFits := inside above
  let distanceBelow := n - below * d
  let distanceAbove := above * d - n
  let preferBelow := distanceBelow < distanceAbove ||
    (distanceBelow = distanceAbove && below % 2 = 0)
  let choice :=
    if belowFits && aboveFits then some (if preferBelow then below else above)
    else if belowFits then some below
    else if aboveFits then some above
    else none
  choice.map fun c => ⟨c, size⟩

/-- Takes the zeros off the right end of the digits; `c = 10 ^ count` is one digit more than
`count`, which the point takes into account. -/
def DecimalDigits.trim (count : Nat) (decimal : DecimalDigits) : List Char × Int :=
  let digits := Nat.toDigits 10 decimal.digits
  let point := decimal.point + ((digits.length : Int) - (count : Int))
  let kept := (digits.reverse.dropWhile (· = '0')).reverse
  (kept, point)

/-- The shortest digits that read back as the double, without zeros at either end, and the place of
the point. Meant for positive finite doubles; seventeen digits always suffice. -/
def shortest (x : Binary64) : List Char × Int :=
  let found := (List.range 17).findSome? fun i =>
    (x.shortestOf (i + 1)).map (DecimalDigits.trim (i + 1))
  found.getD (['0'], 1)

end Binary64

namespace Decimal

/-- What a format decides about writing a double. -/
structure Layout where
  /-- Whether a scientific exponent that is not negative carries a plus sign. -/
  plusSign : Bool
  deriving DecidableEq, Repr

/-- The digits of a positive double laid out: positional while the point stands less than five
places left of the digits and at most sixteen right of their start, with `.0` after a whole number,
else scientific with one digit before the point. -/
def Layout.magnitude (layout : Layout) (digits : List Char) (point : Int) : List Char :=
  let count : Int := digits.length
  if count ≤ point ∧ point ≤ 16 then
    digits ++ List.replicate (point - count).toNat '0' ++ ".0".toList
  else if 0 < point ∧ point ≤ 16 then
    digits.take point.toNat ++ '.' :: digits.drop point.toNat
  else if -5 < point ∧ point ≤ 0 then
    "0.".toList ++ List.replicate point.natAbs '0' ++ digits
  else
    let exponent := point - 1
    let sign := if exponent < 0 then ['-'] else if layout.plusSign then ['+'] else []
    let mantissa := match digits with
      | [] => ['0']
      | [d] => [d]
      | d :: rest => d :: '.' :: rest
    mantissa ++ 'e' :: sign ++ Nat.toDigits 10 exponent.natAbs

/-- The text of a finite double in the given layout; zero keeps its sign. -/
def Layout.text (layout : Layout) (x : Binary64) : List Char :=
  let sign := if x.isNegative then ['-'] else []
  if x.significand = 0 then sign ++ "0.0".toList
  else
    let (digits, point) := x.shortest
    sign ++ layout.magnitude digits point

end Decimal

end StateMetrics
