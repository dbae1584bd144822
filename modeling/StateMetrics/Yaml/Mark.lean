import StateMetrics.Yaml.Character

/-!
# Marks

A text with the place of each of its characters. A line end is one mark, whatever it is written
with, and the end of the text is a mark of its own.
-/

namespace StateMetrics.Yaml

/-- A character of a text and its place. -/
structure Mark where
  char : Char
  /-- The number of characters in front. -/
  index : Nat
  line : Nat
  column : Nat
  deriving DecidableEq, Repr, Inhabited

/-- The character that stands for the end of a text. -/
def endChar : Char := '\x00'

/-- The byte order mark. -/
def byteOrderMark : Char := '\ufeff'

/-- Whether a character is a space or a tab. -/
def isBlank (c : Char) : Bool := c = ' ' || c = '\t'

/-- A line end as it is read: a newline, unless it is one of the two separators that are characters
in their own right. -/
def readBreak (c : Char) : Char := if c.toNat = 0x2028 || c.toNat = 0x2029 then c else '\n'

/-- The marks of a text that starts at a place. -/
def marksFrom (index line column : Nat) : List Char → List Mark
  | [] => [⟨endChar, index, line, column⟩]
  | '\r' :: '\n' :: text => ⟨'\n', index, line, column⟩ :: marksFrom (index + 2) (line + 1) 0 text
  | c :: text =>
    if isBreak c then
      ⟨readBreak c, index, line, column⟩ :: marksFrom (index + 1) (line + 1) 0 text
    else ⟨c, index, line, column⟩ :: marksFrom (index + 1) line (column + 1) text

/-- Whether a character may stand in a text at all: no control characters. -/
def isAdmissible (c : Char) : Bool :=
  c = '\t' || c = '\r' || c.toNat = 0x85 || c = byteOrderMark || isPrintable c

/-- The marks of a text, if all of its characters may stand there. -/
def marks? (text : List Char) : Option (List Mark) :=
  if text.all isAdmissible then some (marksFrom 0 0 0 text) else none

/-- The first character of what is left of a text. -/
def headChar : List Mark → Char
  | [] => endChar
  | m :: _ => m.char

/-- Whether a text is at its end. -/
def atEnd (marks : List Mark) : Bool := headChar marks = endChar

/-- Whether three of a character stand by themselves at the start of a line. -/
def startsWithThree (c : Char) : List Mark → Bool
  | a :: b :: d :: rest =>
    a.column = 0 && a.char = c && b.char = c && d.char = c && isSeparator (headChar rest)
  | _ => false

/-- Whether a marker of a document's start or end stands here. -/
def atMarker (marks : List Mark) : Bool := startsWithThree '-' marks || startsWithThree '.' marks

/-- What is left of a text behind its line. -/
def dropLine (marks : List Mark) : List Mark :=
  marks.dropWhile fun m => !(isBreak m.char || m.char = endChar)

/-- What is left of a text behind its blanks. -/
def dropBlanks (marks : List Mark) : List Mark := marks.dropWhile fun m => isBlank m.char

/-- What is left of a text behind the end of its line, if nothing but blanks and a comment stands in
front of that. -/
def restOfLine? (marks : List Mark) : Option (List Mark) :=
  let marks := dropBlanks marks
  let marks := if headChar marks = '#' then dropLine marks else marks
  match marks with
  | [] => some []
  | m :: rest =>
    if isBreak m.char then some rest else if m.char = endChar then some (m :: rest) else none

/-- What is left of a text behind the filler in front of the next token, and whether a name may
stand there. A line end lets names stand again, except in brackets; a tab is no filler where a name
may stand, except in brackets. -/
def skipFiller (inBrackets inComment nameAllowed : Bool) : List Mark → List Mark × Bool
  | [] => ([], nameAllowed)
  | m :: rest =>
    if isBreak m.char then skipFiller inBrackets false (nameAllowed || !inBrackets) rest
    else if m.char = endChar then (m :: rest, nameAllowed)
    else if inComment || m.char = ' ' || (m.char = '\t' && (inBrackets || !nameAllowed))
        || (m.column = 0 && m.char = byteOrderMark) then
      skipFiller inBrackets inComment nameAllowed rest
    else if m.char = '#' then skipFiller inBrackets true nameAllowed rest
    else (m :: rest, nameAllowed)

end StateMetrics.Yaml
