import StateMetrics.Decimal.Stepwise
import StateMetrics.Json.Written

/-!
# JSON tokens

The punctuation, literals, numbers and strings of a JSON text. `Token.scan?` splits a text into its
tokens and refuses one that holds anything else.
-/

namespace StateMetrics.Json

/-- The smallest piece of a JSON text. -/
inductive Token where
  | openList
  | closeList
  | openObject
  | closeObject
  | comma
  | colon
  /-- A literal or a number. -/
  | scalar (value : Written)
  /-- A string, which may be a value or a name; nothing if half a pair of escapes is in it. -/
  | text (value : Option String)
  deriving Repr, Inhabited

/-- Whether a character may stand between tokens. -/
def isSpace (c : Char) : Bool := c = ' ' || c = '\n' || c = '\t' || c = '\r'

/-- The value of a digit of sixteen, in either case. -/
def hexValue? (c : Char) : Option Nat :=
  if '0' ≤ c ∧ c ≤ '9' then some (c.toNat - '0'.toNat)
  else if 'a' ≤ c ∧ c ≤ 'f' then some (c.toNat - 'a'.toNat + 10)
  else if 'A' ≤ c ∧ c ≤ 'F' then some (c.toNat - 'A'.toNat + 10)
  else none

/-- The number that four digits of sixteen write. -/
def hexQuad? (a b c d : Char) : Option Nat := do
  let a ← hexValue? a
  let b ← hexValue? b
  let c ← hexValue? c
  let d ← hexValue? d
  pure (((a * 16 + b) * 16 + c) * 16 + d)

/-- The character that a backslash and a letter stand for. -/
def simpleEscape? : Char → Option Char
  | '"' => some '"'
  | '\\' => some '\\'
  | '/' => some '/'
  | 'b' => some '\x08'
  | 'f' => some '\x0c'
  | 'n' => some '\n'
  | 'r' => some '\r'
  | 't' => some '\t'
  | _ => none

/-- The rest of a string up to its closing quote, onto the characters read before (the last one
first; nothing once half a pair was read), with what follows the quote. Two escaped halves of a pair
make one character; a raw control character is refused. -/
def takeString (acc : Option (List Char)) : List Char → Option (Option String × List Char)
  | [] => none
  | '"' :: rest => some (acc.map fun chars => String.ofList chars.reverse, rest)
  | '\\' :: 'u' :: a :: b :: c :: d :: '\\' :: 'u' :: e :: f :: g :: h :: rest =>
    match hexQuad? a b c d with
    | none => none
    | some high =>
      if 0xD800 ≤ high ∧ high < 0xDC00 then
        match hexQuad? e f g h with
        | none => none
        | some low =>
          if 0xDC00 ≤ low ∧ low < 0xE000 then
            let pair := Char.ofNat (0x10000 + (high - 0xD800) * 0x400 + (low - 0xDC00))
            takeString (acc.map (pair :: ·)) rest
          else takeString none ('\\' :: 'u' :: e :: f :: g :: h :: rest)
      else
        let acc := if 0xDC00 ≤ high ∧ high < 0xE000 then none else acc.map (Char.ofNat high :: ·)
        takeString acc ('\\' :: 'u' :: e :: f :: g :: h :: rest)
  | '\\' :: 'u' :: a :: b :: c :: d :: rest =>
    match hexQuad? a b c d with
    | none => none
    | some unit =>
      let acc := if 0xD800 ≤ unit ∧ unit < 0xE000 then none else acc.map (Char.ofNat unit :: ·)
      takeString acc rest
  | '\\' :: c :: rest =>
    match simpleEscape? c with
    | none => none
    | some plain => takeString (acc.map (plain :: ·)) rest
  | c :: rest => if c.toNat < 32 || c = '\\' then none else takeString (acc.map (c :: ·)) rest
  termination_by text => text.length

/-- Whether a numeral has the form of a number: digits without a needless zero in front, and digits
behind a point and behind the mark of an exponent. -/
def isNumeral (n : Decimal.Numeral) : Bool :=
  n.whole ≠ [] && !(n.whole.length > 1 && n.whole.head? = some '0')
    && n.fraction ≠ some [] && n.exponentComplete

/-- The number of a numeral, if it is not too large: an integer when it has neither fraction nor
exponent and fits, else a double. Zero with a minus sign is the double. -/
def numberOf? (negative : Bool) (n : Decimal.Numeral) : Option Number :=
  let value := Decimal.accumulate 0 n.whole
  let signed : Int := if negative then -(value : Int) else value
  if n.fraction = none && n.exponent = none && fitsInWord signed && !(negative && value = 0) then
    some (.integer signed)
  else (n.stepwise? negative).map .real

/-- The number at the front of a text, behind its sign, and what follows it. -/
def takeNumber? (negative : Bool) (text : List Char) : Option (Token × List Char) :=
  let (n, rest) := Decimal.Numeral.take text
  if isNumeral n then some (.scalar (.number (numberOf? negative n)), rest) else none

/-- The text after `word`, when the text starts with it. -/
def afterWord? : List Char → List Char → Option (List Char)
  | [], rest => some rest
  | w :: word, c :: rest => if w = c then afterWord? word rest else none
  | _ :: _, [] => none

/-- The token at the front of a text that starts with no space, and what follows it. -/
def Token.take? (chars : List Char) : Option (Token × List Char) :=
  match chars with
  | [] => none
  | '[' :: rest => some (.openList, rest)
  | ']' :: rest => some (.closeList, rest)
  | '\x7b' :: rest => some (.openObject, rest)
  | '\x7d' :: rest => some (.closeObject, rest)
  | ',' :: rest => some (.comma, rest)
  | ':' :: rest => some (.colon, rest)
  | '"' :: rest => (takeString (some []) rest).map fun (value, rest) => (.text value, rest)
  | 'n' :: rest => (afterWord? "ull".toList rest).map fun rest => (.scalar .null, rest)
  | 't' :: rest => (afterWord? "rue".toList rest).map fun rest => (.scalar (.bool true), rest)
  | 'f' :: rest => (afterWord? "alse".toList rest).map fun rest => (.scalar (.bool false), rest)
  | '-' :: rest => takeNumber? true rest
  | rest => takeNumber? false rest

/-- The tokens of a text, at most `fuel` of them, onto those read before (the last one first). -/
def Token.scanOnto (acc : List Token) : Nat → List Char → Option (List Token)
  | 0, chars => if chars.all isSpace then some acc.reverse else none
  | fuel + 1, chars =>
    match chars.dropWhile isSpace with
    | [] => some acc.reverse
    | c :: rest =>
      match Token.take? (c :: rest) with
      | none => none
      | some (token, rest) => scanOnto (token :: acc) fuel rest

/-- The tokens of a text. A text has at most as many tokens as characters. -/
def Token.scan? (chars : List Char) : Option (List Token) := Token.scanOnto [] chars.length chars

end StateMetrics.Json
