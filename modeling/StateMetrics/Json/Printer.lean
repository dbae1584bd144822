import StateMetrics.Decimal.Digits
import StateMetrics.Decimal.Shortest
import StateMetrics.Json.Basic

/-!
# JSON text

The compact text of a JSON value: no blanks, the members of an object in the order of their names.
-/

namespace StateMetrics.Json

/-- The digits of sixteen, in lower case. -/
def hexDigit (n : Nat) : Char := (Nat.digitChar (n % 16))

/-- The character inside a JSON string: quote, backslash and the controls are escaped, the common
ones by their short forms. -/
def escapeChar (c : Char) : List Char :=
  if c = '"' then ['\\', '"']
  else if c = '\\' then ['\\', '\\']
  else if c = '\n' then ['\\', 'n']
  else if c = '\r' then ['\\', 'r']
  else if c = '\t' then ['\\', 't']
  else if c.toNat = 8 then ['\\', 'b']
  else if c.toNat = 12 then ['\\', 'f']
  else if c.toNat < 32 then ['\\', 'u', '0', '0', hexDigit (c.toNat / 16), hexDigit c.toNat]
  else [c]

/-- A string in quotes. -/
def quoteText (text : String) : List Char := '"' :: (text.toList.flatMap escapeChar ++ ['"'])

/-- Doubles in JSON text carry a sign in every exponent. -/
def numberLayout : Decimal.Layout := ⟨true⟩

/-- The text of a number; one that is not finite is null. -/
def Number.chars : Number → List Char
  | .integer value => Decimal.intDigits value
  | .real value => if value.isFinite then numberLayout.text value else "null".toList

mutual

/-- The characters of a value, in front of those that follow it. -/
def charsOnto : Json → List Char → List Char
  | .null, after => "null".toList ++ after
  | .bool true, after => "true".toList ++ after
  | .bool false, after => "false".toList ++ after
  | .number n, after => n.chars ++ after
  | .str text, after => quoteText text ++ after
  | .arr [], after => '[' :: ']' :: after
  | .arr (item :: items), after => '[' :: item.charsOnto (itemsOnto items (']' :: after))
  | .obj [], after => '\x7b' :: '\x7d' :: after
  | .obj ((name, value) :: members), after =>
    '\x7b' :: quoteText name ++ ':' :: value.charsOnto (membersOnto members ('\x7d' :: after))

/-- Further items of a list, each behind a comma. -/
def itemsOnto : List Json → List Char → List Char
  | [], after => after
  | item :: items, after => ',' :: item.charsOnto (itemsOnto items after)

/-- Further members of an object, each behind a comma. -/
def membersOnto : List (String × Json) → List Char → List Char
  | [], after => after
  | (name, value) :: members, after =>
    ',' :: quoteText name ++ ':' :: value.charsOnto (membersOnto members after)

end

/-- The compact text of a value. -/
def render (value : Json) : String := String.ofList (value.charsOnto [])

end StateMetrics.Json
