import StateMetrics.Decimal.Reading

/-!
# What a plain scalar is read as

A plain scalar is read as null, a truth value, an integer or a real where its text has that form,
and as a string otherwise. A string whose text has one of these forms has to be quoted.
-/

namespace StateMetrics.Yaml

open Decimal

/-- The spellings of null. -/
def readsAsNull (text : List Char) : Bool :=
  [[], "null".toList, "Null".toList, "NULL".toList, ['~']].contains text

/-- The spellings of the truth values. -/
def readsAsBool (text : List Char) : Bool :=
  ["true".toList, "True".toList, "TRUE".toList, "false".toList, "False".toList,
    "FALSE".toList].contains text

/-- Drops a plus sign in front. -/
def dropPlus : List Char → List Char
  | '+' :: rest => rest
  | text => text

/-- Drops one sign in front. -/
def dropSign : List Char → List Char
  | '+' :: rest => rest
  | '-' :: rest => rest
  | text => text

/-- Whether a text starts with a sign. -/
def startsSigned : List Char → Bool
  | '+' :: _ => true
  | '-' :: _ => true
  | _ => false

/-- Digits, after at most one sign, with a needless zero in front: read as a string. -/
def hasNeedlessZero (text : List Char) : Bool :=
  match dropSign text with
  | '0' :: d :: rest => (d :: rest).all Char.isDigit
  | _ => false

/-- The value of a digit or letter, in either case, as digit of a base up to thirty-six. -/
def digitValue? (c : Char) : Option Nat :=
  if '0' ≤ c ∧ c ≤ '9' then some (c.toNat - '0'.toNat)
  else if 'a' ≤ c ∧ c ≤ 'z' then some (c.toNat - 'a'.toNat + 10)
  else if 'A' ≤ c ∧ c ≤ 'Z' then some (c.toNat - 'A'.toNat + 10)
  else none

/-- The value of a non-empty run of digits of a base. -/
def ofBase? (base : Nat) (digits : List Char) : Option Nat :=
  if digits = [] then none
  else digits.foldlM (fun n c =>
    match digitValue? c with
    | some d => if d < base then some (base * n + d) else none
    | none => none) 0

/-- The base that a letter behind a zero announces, with the digits behind the two. -/
def announcedBase? : List Char → Option (Nat × List Char)
  | '0' :: 'x' :: digits => some (16, digits)
  | '0' :: 'o' :: digits => some (8, digits)
  | '0' :: 'b' :: digits => some (2, digits)
  | _ => none

/-- Whether a text is an integer below `2 ^ 128`, after at most a plus sign, in base ten or an
announced base. -/
def readsAsUnsigned (text : List Char) : Bool :=
  let body := dropPlus text
  match announcedBase? body with
  | some (base, digits) => (ofBase? base digits).any (· < wordSize 128)
  | none => !hasNeedlessZero text && (ofBase? 10 body).any (· < wordSize 128)

/-- Whether a text is a minus sign and an integer of at most `2 ^ 127`, in base ten or an announced
base. -/
def readsAsNegative : List Char → Bool
  | '-' :: body =>
    match announcedBase? body with
    | some (base, digits) => (ofBase? base digits).any (· ≤ wordSize 127)
    | none => !hasNeedlessZero ('-' :: body) && (ofBase? 10 body).any (· ≤ wordSize 127)
  | _ => false

/-- Whether a text is an integer of at most 128 bits. -/
def readsAsInteger (text : List Char) : Bool := readsAsUnsigned text || readsAsNegative text

/-- Whether a text is a real: infinity, NaN, or a decimal numeral that is not beyond the doubles. -/
def readsAsReal (text : List Char) : Bool :=
  let body := dropPlus text
  if body ≠ text && startsSigned body then false
  else if [".inf".toList, ".Inf".toList, ".INF".toList].contains body then true
  else if ["-.inf".toList, "-.Inf".toList, "-.INF".toList, ".nan".toList, ".NaN".toList,
      ".NAN".toList].contains text then true
  else (realOf? body).any Binary64.isFinite

/-- Whether a plain scalar with this text is not read as the string of its text, or looks so much
like a number that writers quote it. -/
def needsQuotes (text : List Char) : Bool :=
  readsAsNull text || readsAsBool text || readsAsInteger text || hasNeedlessZero text
    || readsAsReal text

end StateMetrics.Yaml
