import StateMetrics.Decimal.Digits
import StateMetrics.Decimal.Word

/-!
# Messages with a place

A message may end in the place that it is about, a line and a column. `placed` writes such a place
anew: its numbers lose their leading zeros, and a place in line zero, which is none, goes
altogether.
-/

namespace StateMetrics.Text

/-- What stands before and behind the last occurrence of a word in a text. -/
def splitAtLast (word : List Char) : List Char → Option (List Char × List Char)
  | [] => none
  | c :: text =>
    match splitAtLast word text with
    | some (before, behind) => some (c :: before, behind)
    | none =>
      if word.isPrefixOf (c :: text) then some ([], (c :: text).drop word.length) else none

/-- A number as the word for a line or column is followed by: digits, and no more than 64 bits. -/
def placeNumber? (digits : List Char) : Option Nat :=
  (Decimal.ofDigits? digits).filter (· < wordSize 64)

/-- What stands in front of a line. -/
def lineWord : List Char := " at line ".toList

/-- What stands in front of a column. -/
def columnWord : List Char := " column ".toList

/-- The line and column that a text writes. -/
def place? (text : List Char) : Option (Nat × Nat) := do
  let line := text.takeWhile Char.isDigit
  let behind := text.drop line.length
  if !columnWord.isPrefixOf behind then none
  let line ← placeNumber? line
  let column ← placeNumber? (behind.drop columnWord.length)
  pure (line, column)

/-- A message with its place, if it ends in one, written anew. -/
def placed (message : String) : String :=
  let found := do
    let (before, behind) ← splitAtLast lineWord message.toList
    let (line, column) ← place? behind
    pure (before, line, column)
  match found with
  | none => message
  | some (before, 0, _) => String.ofList before
  | some (before, line, column) =>
    String.ofList (before ++ lineWord ++ Decimal.natDigits line ++ columnWord
      ++ Decimal.natDigits column)

end StateMetrics.Text
