import StateMetrics.Yaml.Style

/-!
# Scalars of YAML

The text of a string in each style. Where a scalar goes over several lines, `indent` is the number
of spaces in front of its lines.
-/

namespace StateMetrics.Yaml

/-- A piece of YAML, and whether it ends with a line break, so that what follows it starts on a line
of its own already. -/
structure Piece where
  /-- The characters. -/
  text : List Char
  /-- Whether they end with a line break. -/
  closed : Bool
  deriving DecidableEq, Repr

/-- So many spaces. -/
def spaces (count : Nat) : List Char := List.replicate count ' '

/-! ## Double quotes -/

/-- A digit of sixteen, in upper case. -/
def upperHexDigit (n : Nat) : Char :=
  let d := n % 16
  if d < 10 then Char.ofNat ('0'.toNat + d) else Char.ofNat ('A'.toNat + (d - 10))

/-- The last `width` digits of sixteen of a number. -/
def hexDigits : Nat → Nat → List Char
  | 0, _ => []
  | width + 1, n => hexDigits width (n / 16) ++ [upperHexDigit n]

/-- The character behind the backslash for those that have a short escape. -/
def shortEscape? (n : Nat) : Option Char :=
  [(0x00, '0'), (0x07, 'a'), (0x08, 'b'), (0x09, 't'), (0x0A, 'n'), (0x0B, 'v'), (0x0C, 'f'),
    (0x0D, 'r'), (0x1B, 'e'), (0x22, '"'), (0x5C, '\\'), (0x85, 'N'), (0xA0, '_'), (0x2028, 'L'),
    (0x2029, 'P')].lookup n

/-- A character inside double quotes. -/
def doubleQuotedChar (c : Char) : List Char :=
  if isPrintable c && !isBreak c && c ≠ '"' && c ≠ '\\' then [c]
  else
    match shortEscape? c.toNat with
    | some e => ['\\', e]
    | none =>
      if c.toNat ≤ 0xFF then '\\' :: 'x' :: hexDigits 2 c.toNat
      else if c.toNat ≤ 0xFFFF then '\\' :: 'u' :: hexDigits 4 c.toNat
      else '\\' :: 'U' :: hexDigits 8 c.toNat

/-- A text in double quotes, on one line. -/
def doubleQuoted (text : List Char) : List Char := '"' :: (text.flatMap doubleQuotedChar ++ ['"'])

/-! ## Single quotes -/

/-- The inside of single quotes: a quote is written twice, a newline that follows no break too, and
the lines behind breaks are indented. -/
def singleQuotedBody (indent : Nat) (afterBreak : Bool) : List Char → List Char
  | [] => if afterBreak then spaces indent else []
  | c :: text =>
    if c = ' ' then c :: singleQuotedBody indent afterBreak text
    else if isBreak c then
      let extra := if !afterBreak && c = '\n' then ['\n'] else []
      extra ++ c :: singleQuotedBody indent true text
    else
      let lead := if afterBreak then spaces indent else []
      let quote := if c = '\'' then ['\''] else []
      lead ++ quote ++ c :: singleQuotedBody indent false text

/-- A text in single quotes. -/
def singleQuoted (indent : Nat) (text : List Char) : List Char :=
  '\'' :: (singleQuotedBody indent false text ++ ['\''])

/-! ## Literal blocks -/

/-- What stands behind the bar of a literal block: the indentation where the text starts with a
space or break, a minus sign where it ends without a break, a plus sign where it ends with more than
one or is a break alone. -/
def literalHints (text : List Char) : List Char :=
  let indentation := if text.head?.any (fun c => c = ' ' || isBreak c) then ['2'] else []
  let chomping := match text.reverse with
    | [] => ['-']
    | [c] => if isBreak c then ['+'] else ['-']
    | c :: d :: _ => if !isBreak c then ['-'] else if isBreak d then ['+'] else []
  indentation ++ chomping

/-- The lines of a literal block, those with text in them indented. -/
def literalBody (indent : Nat) (afterBreak : Bool) : List Char → List Char
  | [] => []
  | c :: text =>
    if isBreak c then c :: literalBody indent true text
    else (if afterBreak then spaces indent else []) ++ c :: literalBody indent false text

/-- A text as a literal block. -/
def literal (indent : Nat) (text : List Char) : List Char :=
  '|' :: (literalHints text ++ '\n' :: literalBody indent true text)

/-- A string in the style that suits it. -/
def scalar (indent : Nat) (text : List Char) : Piece :=
  match Style.ofText text with
  | .plain => ⟨text, false⟩
  | .singleQuoted => ⟨singleQuoted indent text, false⟩
  | .doubleQuoted => ⟨doubleQuoted text, false⟩
  | .literal => ⟨literal indent text, text.getLast?.any isBreak⟩

end StateMetrics.Yaml
