import StateMetrics.Decimal.Digits

/-!
# Base 64

Checks a text of base 64 with its padding. A good text is its own stored form, so nothing is ever
decoded; a bad one is refused with the place of the first fault.
-/

namespace StateMetrics.Base64

/-- The value of a character of the alphabet. -/
def value? (c : Char) : Option Nat :=
  if 'A' ≤ c ∧ c ≤ 'Z' then some (c.toNat - 'A'.toNat)
  else if 'a' ≤ c ∧ c ≤ 'z' then some (c.toNat - 'a'.toNat + 26)
  else if '0' ≤ c ∧ c ≤ '9' then some (c.toNat - '0'.toNat + 52)
  else if c = '+' then some 62
  else if c = '/' then some 63
  else none

/-- What is wrong with a text of base 64. -/
inductive Fault where
  | badByte (value : UInt8) (offset : Nat)
  | badLength (length : Nat)
  | badLastSymbol (value : UInt8) (offset : Nat)
  | badPadding
  deriving DecidableEq, Repr

/-- The text of a fault. -/
def Fault.message : Fault → String
  | badByte value offset =>
    "Invalid symbol " ++ Decimal.natText value.toNat ++ ", offset " ++ Decimal.natText offset ++ "."
  | badLength length => "Invalid input length: " ++ Decimal.natText length
  | badLastSymbol value offset =>
    "Invalid last symbol " ++ Decimal.natText value.toNat ++ ", offset "
      ++ Decimal.natText offset ++ "."
  | badPadding => "Invalid padding"

/-- The value of a byte as a character of the alphabet. -/
def byteValue? (b : UInt8) : Option Nat :=
  if b.toNat < 128 then value? (Char.ofNat b.toNat) else none

/-- The byte that pads. -/
def pad : UInt8 := 61

/-- The first byte outside the alphabet, with its place counted from `offset` on. -/
def firstBad (offset : Nat) : List UInt8 → Option (UInt8 × Nat)
  | [] => none
  | b :: bytes => if (byteValue? b).isSome then firstBad (offset + 1) bytes else some (b, offset)

/-- How many bits of the last of some symbols belong to no byte. -/
def spareBits (symbols : Nat) : Nat := 6 * symbols % 8

/-- Checks the last group, of at most four bytes, which starts at `offset`: two symbols or more, and
padding up to four behind them; the last symbol has no bits to spare. -/
def checkLast (offset : Nat) (group : List UInt8) : Option Fault :=
  let symbols := group.takeWhile (· ≠ pad)
  let padding := group.drop symbols.length
  match firstBad offset symbols with
  | some (b, place) => some (.badByte b place)
  | none =>
    if padding ≠ [] && (symbols.length < 2 || padding.any (· ≠ pad)) then
      some (.badByte pad (offset + symbols.length))
    else if symbols.length < 2 then some (.badLength (offset + symbols.length))
    else if group.length ≠ 4 then some .badPadding
    else
      let last := symbols.getLastD 0
      if ((byteValue? last).getD 0) % Nat.pow 2 (spareBits symbols.length) = 0 then none
      else some (.badLastSymbol last (offset + symbols.length - 1))

/-- How many bytes stand in front of the last group. -/
def lastGroup (length : Nat) : Nat := (length - 1) / 4 * 4

/-- Checks a text. One byte too many is looked at first, as such a byte is most often a line end;
then the groups are checked in order. -/
def check (bytes : List UInt8) : Option Fault :=
  let length := bytes.length
  let last := bytes.getLastD pad
  if length = 0 then none
  else if length % 4 = 1 && last ≠ pad && (byteValue? last).isNone then
    some (.badByte last (length - 1))
  else
    -- A lone byte behind whole groups forms the last group by itself.
    let start := lastGroup length
    match firstBad 0 (bytes.take start) with
    | some (b, place) => some (.badByte b place)
    | none => checkLast start (bytes.drop start)

end StateMetrics.Base64
