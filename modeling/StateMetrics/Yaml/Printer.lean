import StateMetrics.Decimal.Digits
import StateMetrics.Decimal.Shortest
import StateMetrics.Json.Basic
import StateMetrics.Yaml.Scalar

/-!
# Printing YAML

A JSON value as a YAML document in block style: two more spaces for each level, lists in an object
not indented, the members of an object in the order of their names. A name that goes over several
lines or has more than 128 bytes is written behind a question mark, with its value behind a colon
on the next line.
-/

namespace StateMetrics.Yaml

/-- Doubles in YAML carry no sign in an exponent that is not negative. -/
def numberLayout : Decimal.Layout := ⟨false⟩

/-- The text of a number. -/
def numberText : Json.Number → List Char
  | .integer value => Decimal.intDigits value
  | .real value => numberLayout.text value

/-- The start of a line with the given indentation; the line before it is ended unless it is. -/
def lineStart (closed : Bool) (indent : Nat) : List Char :=
  if closed then spaces indent else '\n' :: spaces indent

/-- The longest name, in bytes, that is written in front of its value. -/
def maxSimpleName : Nat := 128

/-- Whether a name is written in front of its value on the same line. -/
def isSimpleName (name : String) : Bool :=
  !name.toList.any isBreak && name.utf8ByteSize ≤ maxSimpleName

/-- Where a value is written. -/
inductive Place where
  /-- Behind a dash, or behind the colon that follows a name over several lines: lists and objects
  start on the same line. -/
  | inline
  /-- Behind a name and its colon: lists and objects start on the next line. -/
  | afterName
  deriving DecidableEq, Repr

mutual

/-- A value behind the indicator in front of it; `indent` is the indentation of the list or object
that holds it. -/
def value (place : Place) (indent : Nat) : Json → Piece
  | .null => ⟨" null".toList, false⟩
  | .bool true => ⟨" true".toList, false⟩
  | .bool false => ⟨" false".toList, false⟩
  | .number n => ⟨' ' :: numberText n, false⟩
  | .str text =>
    let written := scalar (indent + 2) text.toList
    ⟨' ' :: written.text, written.closed⟩
  | .arr [] => ⟨" []".toList, false⟩
  | .arr (item :: rest) =>
    let inner := if place = .inline then indent + 2 else indent
    let lead := if place = .inline then [' '] else lineStart false inner
    let first := value .inline inner item
    let more := items inner first.closed rest
    ⟨lead ++ '-' :: (first.text ++ more.text), more.closed⟩
  | .obj [] => ⟨" \x7b\x7d".toList, false⟩
  | .obj ((name, member) :: rest) =>
    let inner := indent + 2
    let lead := if place = .inline then [' '] else lineStart false inner
    let first := entry inner name member
    let more := entries inner first.closed rest
    ⟨lead ++ first.text ++ more.text, more.closed⟩

/-- Further items of a list. -/
def items (indent : Nat) (closed : Bool) : List Json → Piece
  | [] => ⟨[], closed⟩
  | item :: rest =>
    let first := value .inline indent item
    let more := items indent first.closed rest
    ⟨lineStart closed indent ++ '-' :: (first.text ++ more.text), more.closed⟩

/-- One member of an object, behind its indentation. -/
def entry (indent : Nat) (name : String) (member : Json) : Piece :=
  let written := scalar (indent + 2) name.toList
  if isSimpleName name then
    let after := value .afterName indent member
    ⟨written.text ++ ':' :: after.text, after.closed⟩
  else
    let after := value .inline indent member
    ⟨'?' :: ' ' :: (written.text ++ lineStart written.closed indent ++ ':' :: after.text),
      after.closed⟩

/-- Further members of an object. -/
def entries (indent : Nat) (closed : Bool) : List (String × Json) → Piece
  | [] => ⟨[], closed⟩
  | (name, member) :: rest =>
    let first := entry indent name member
    let more := entries indent first.closed rest
    ⟨lineStart closed indent ++ first.text ++ more.text, more.closed⟩

end

/-- The YAML document whose root is the object with the given members, at least one; it ends with a
line break. -/
def document (members : List (String × Json)) : List Char :=
  let written := entries 0 true members
  if written.closed then written.text else written.text ++ ['\n']

end StateMetrics.Yaml
