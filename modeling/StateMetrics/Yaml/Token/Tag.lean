import StateMetrics.Decimal.Digits
import StateMetrics.Yaml.Token
import StateMetrics.Yaml.Token.Scalar

/-!
# Reading labels, tags and directives

The parts of a YAML text that say something about a node or about the document.
-/

namespace StateMetrics.Yaml

/-- Whether a character may stand in a label or in the name of a directive. -/
def isWordChar (c : Char) : Bool := c.isAlphanum || c = '-' || c = '_'

/-- The word at the front of a text, and what is left. -/
def takeWord (marks : List Mark) : List Char × List Mark :=
  ((marks.takeWhile fun m => isWordChar m.char).map Mark.char,
    marks.dropWhile fun m => isWordChar m.char)

/-- The label behind its indicator, and what is left. -/
def takeLabel? (marks : List Mark) : Option (List Char × List Mark) :=
  let (word, rest) := takeWord marks
  let c := headChar rest
  if word ≠ [] && (isSeparator c || "?:,]\x7d%@`".toList.contains c) then some (word, rest)
  else none

/-! ## Tags -/

/-- Whether a character may stand in a tag; some only where brackets mean nothing. -/
def isTagChar (anywhere : Bool) (c : Char) : Bool :=
  isWordChar c || ";/?:@&=+$.!~*'()%".toList.contains c
    || (anywhere && ",[]".toList.contains c)

/-- How many bytes a character has whose first byte is given. -/
def widthOfLead? (lead : Nat) : Option Nat :=
  if lead < 0x80 then some 1
  else if 0xC0 ≤ lead && lead < 0xE0 then some 2
  else if 0xE0 ≤ lead && lead < 0xF0 then some 3
  else if 0xF0 ≤ lead && lead < 0xF8 then some 4
  else none

/-- The byte that is written as a percent sign and two digits of sixteen, and what is left. -/
def takeByte? : List Mark → Option (Nat × List Mark)
  | p :: a :: b :: rest => do
    if p.char ≠ '%' then none
    let byte ← hexNumber? [a.char, b.char]
    pure (byte, rest)
  | _ => none

/-- The bytes of a character behind its first, each put onto the value so far, and what is left. -/
def takeFurtherBytes? (value : Nat) : Nat → List Mark → Option (Nat × List Mark)
  | 0, marks => some (value, marks)
  | count + 1, marks => do
    let (byte, rest) ← takeByte? marks
    if byte / 0x40 ≠ 2 then none
    takeFurtherBytes? (value * 0x40 + byte % 0x40) count rest

/-- The character that is written by its bytes, and what is left. -/
def takeBytes? (marks : List Mark) : Option (Char × List Mark) := do
  let (lead, rest) ← takeByte? marks
  let width ← widthOfLead? lead
  let start := if width = 1 then lead else lead % Nat.pow 2 (7 - width)
  let (value, rest) ← takeFurtherBytes? start (width - 1) rest
  pure (Char.ofNat value, rest)

/-- The characters of a tag, onto those read before (the last first), and what is left. -/
def takeTagChars? (anywhere : Bool) (acc : List Char) :
    Nat → List Mark → Option (List Char × List Mark)
  | 0, marks => some (acc.reverse, marks)
  | fuel + 1, marks =>
    if headChar marks = '%' then
      match takeBytes? marks with
      | none => none
      | some (c, rest) => takeTagChars? anywhere (c :: acc) fuel rest
    else
      match marks with
      | [] => some (acc.reverse, [])
      | m :: rest =>
        if isTagChar anywhere m.char then takeTagChars? anywhere (m.char :: acc) fuel rest
        else some (acc.reverse, m :: rest)

/-- What may be an abbreviation at the front of a text: an exclamation mark, a word and perhaps
another exclamation mark. -/
def takeHandle? (marks : List Mark) : Option (List Char × List Mark) :=
  if headChar marks ≠ '!' then none
  else
    let (word, rest) := takeWord (marks.drop 1)
    if headChar rest = '!' then some ('!' :: (word ++ ['!']), rest.drop 1)
    else some ('!' :: word, rest)

/-- Whether an abbreviation is complete: two exclamation marks, perhaps with a word in between. -/
def isHandle (text : List Char) : Bool := 1 < text.length && text.getLast? = some '!'

/-- The tag in front of a node, and what is left: between angle brackets as it is, behind an
abbreviation, or behind a lone exclamation mark. -/
def takeTag? (inBrackets : Bool) (marks : List Mark) : Option (Token × List Mark) := do
  let (tag, rest) ←
    if headChar (marks.drop 1) = '<' then do
      let (text, rest) ← takeTagChars? true [] marks.length (marks.drop 2)
      if text = [] || headChar rest ≠ '>' then none
      pure (Token.tag [] text, rest.drop 1)
    else do
      let (handle, rest) ← takeHandle? marks
      let (text, rest) ← takeTagChars? false [] marks.length rest
      if isHandle handle then
        if text = [] then none
        pure (Token.tag handle text, rest)
      else
        let text := handle.drop 1 ++ text
        pure (if text = [] then Token.tag [] ['!'] else Token.tag ['!'] text, rest)
  let c := headChar rest
  if isSeparator c || (inBrackets && c = ',') then pure (tag, rest) else none

/-! ## Directives -/

/-- The longest number of a version. -/
def maxVersionDigits : Nat := 9

/-- A number of a version, and what is left. -/
def takeVersionNumber? (marks : List Mark) : Option (Nat × List Mark) :=
  let digits := (marks.takeWhile fun m => m.char.isDigit).map Mark.char
  if digits = [] || maxVersionDigits < digits.length then none
  else some (Decimal.accumulate 0 digits, marks.drop digits.length)

/-- The version behind the name of its directive, and what is left. -/
def takeVersion? (marks : List Mark) : Option (Token × List Mark) := do
  let (major, rest) ← takeVersionNumber? (dropBlanks marks)
  if headChar rest ≠ '.' then none
  let (minor, rest) ← takeVersionNumber? (rest.drop 1)
  pure (.version major minor, rest)

/-- The abbreviation behind the name of its directive, and what is left. -/
def takeAbbreviation? (marks : List Mark) : Option (Token × List Mark) := do
  let (handle, rest) ← takeHandle? (dropBlanks marks)
  if !(isHandle handle || handle = ['!']) || !isBlank (headChar rest) then none
  let (text, rest) ← takeTagChars? true [] rest.length (dropBlanks rest)
  if text = [] || !isSeparator (headChar rest) then none
  pure (.abbreviation handle text, rest)

/-- The directive behind its indicator, and what is left behind its line. -/
def takeDirective? (marks : List Mark) : Option (Token × List Mark) := do
  let (word, rest) := takeWord marks
  if word = [] || !isSeparator (headChar rest) then none
  let (token, rest) ←
    if word = "YAML".toList then takeVersion? rest
    else if word = "TAG".toList then takeAbbreviation? rest
    else none
  let rest ← restOfLine? rest
  pure (token, rest)

end StateMetrics.Yaml
