import StateMetrics.Yaml.Character
import StateMetrics.Yaml.Resolution

/-!
# Styles of scalars

A string is written in the plainest style that reads back: as a literal block when it has newlines,
else plain, unless it would be read as something else; where the wished style does not admit the
text, a plain scalar gives way to single quotes and everything else to double quotes.
-/

namespace StateMetrics.Yaml

/-- How a scalar is written. -/
inductive Style where
  | plain
  | singleQuoted
  | doubleQuoted
  | literal
  deriving DecidableEq, Repr

/-- Whether the text has a character that only double quotes can hold. -/
def hasUnprintable (text : List Char) : Bool := text.any fun c => !isPrintable c

/-- Whether a space stands right before a line break. -/
def hasSpaceBeforeBreak (text : List Char) : Bool := adjacent (· = ' ') isBreak text

/-- Whether a space stands right behind a line break. -/
def hasSpaceAfterBreak (text : List Char) : Bool := adjacent isBreak (· = ' ') text

/-- The characters that no plain scalar starts with. -/
def reservedStarts : List Char :=
  ['#', ',', '[', ']', '\x7b', '\x7d', '&', '*', '!', '|', '>', '\'', '"', '%', '@', '`']

/-- Whether the text would be taken for an indicator: it starts with a document marker, a reserved
character, or a question mark or dash of its own; a colon ends a word in it; or a number sign starts
one. -/
def hasIndicator (text : List Char) : Bool :=
  let marker := text.take 3 = ['-', '-', '-'] || text.take 3 = ['.', '.', '.']
  let start := match text with
    | [] => false
    | c :: rest =>
      reservedStarts.contains c
        || ((c = '?' || c = '-') && (rest = [] || (rest.head?.any isSeparator)))
  let colon := adjacent (· = ':') isSeparator text || text.getLast? = some ':'
  let comment := adjacent isSeparator (· = '#') text
  marker || start || colon || comment

/-- Whether the text may stand plain. -/
def admitsPlain (text : List Char) : Bool :=
  !(text.any isBreak || hasUnprintable text || text.head? = some ' ' || text.getLast? = some ' '
    || hasIndicator text)

/-- Whether the text may stand in single quotes. -/
def admitsSingleQuoted (text : List Char) : Bool :=
  !(hasSpaceAfterBreak text || hasSpaceBeforeBreak text || hasUnprintable text)

/-- Whether the text may stand as a literal block. -/
def admitsLiteral (text : List Char) : Bool :=
  !(text = [] || text.getLast? = some ' ' || hasSpaceBeforeBreak text || hasUnprintable text)

/-- The style that a string is written in. -/
def Style.ofText (text : List Char) : Style :=
  let quoted := if admitsSingleQuoted text then Style.singleQuoted else .doubleQuoted
  if text.contains '\n' then if admitsLiteral text then .literal else .doubleQuoted
  else if needsQuotes text then quoted
  else if admitsPlain text then .plain
  else quoted

end StateMetrics.Yaml
