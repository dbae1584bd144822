import StateMetrics.Yaml.Mark

/-!
# Reading scalars by lines

A scalar may be written as indented lines behind a header. The header says whether line ends are
kept or folded, how deep the lines are indented, unless their first one shows it, and what becomes
of the line ends behind the last.
-/

namespace StateMetrics.Yaml

/-- What becomes of the line ends behind the last line. -/
inductive Chomping where
  /-- None is kept. -/
  | strip
  /-- The first is kept. -/
  | clip
  /-- All are kept. -/
  | keep
  deriving DecidableEq, Repr, Inhabited

/-- The header of a scalar by lines. -/
structure LinesHeader where
  chomping : Chomping := .clip
  /-- How much deeper than the text around them the lines are indented. -/
  increment : Option Nat := none
  deriving DecidableEq, Repr, Inhabited

/-- Takes the next character of a header in, if it is one; each of the two parts may stand there
once, in either order. -/
def LinesHeader.add? (h : LinesHeader) (seen : Bool) (c : Char) : Option (LinesHeader × Bool) :=
  if c = '+' && !seen then some ({ h with chomping := .keep }, true)
  else if c = '-' && !seen then some ({ h with chomping := .strip }, true)
  else if c.isDigit && h.increment.isNone then
    some ({ h with increment := some (c.toNat - '0'.toNat) }, seen)
  else none

/-- The header at the front of a text, and what is left. -/
def takeHeader (h : LinesHeader) (seen : Bool) : Nat → List Mark → LinesHeader × List Mark
  | 0, marks => (h, marks)
  | _, [] => (h, [])
  | fuel + 1, m :: rest =>
    match h.add? seen m.char with
    | some (h, seen) => takeHeader h seen fuel rest
    | none => (h, m :: rest)

/-- Moves over indentation and empty lines: the line ends on the way, the last first, how deep the
deepest indentation was, and what is left. The indentation is that of the lines, if it is known; a
tab must not stand in it. -/
def skipIndentation (indent : Option Nat) (deepest : Nat) (breaks : List Char) :
    List Mark → Option (List Char × Nat × List Mark)
  | [] => some (breaks, deepest, [])
  | m :: rest =>
    let inside := match indent with
      | none => true
      | some indent => m.column < indent
    if m.char = ' ' && inside then skipIndentation indent deepest breaks rest
    else if m.char = '\t' && inside then none
    else
      let deepest := max deepest m.column
      if isBreak m.char then skipIndentation indent deepest (m.char :: breaks) rest
      else some (breaks, deepest, m :: rest)

/-- A scalar by lines while it is read. -/
structure LinesSoFar where
  /-- What was read, the last first. -/
  acc : List Char := []
  /-- The line end behind the last line. -/
  lineEnd : Option Char := none
  /-- The line ends of empty lines behind that, the last first. -/
  empties : List Char := []
  /-- Whether the last line began with a blank. -/
  afterBlank : Bool := false
  deriving DecidableEq, Repr, Inhabited

/-- What was read with the line ends in front of a line that begins with a blank or not. -/
def LinesSoFar.joined (s : LinesSoFar) (folded startsBlank : Bool) : List Char :=
  let kept := s.empties ++ (s.lineEnd.toList ++ s.acc)
  if folded && s.lineEnd = some '\n' && !s.afterBlank && !startsBlank then
    if s.empties = [] then ' ' :: s.acc else s.empties ++ s.acc
  else kept

/-- The lines of a scalar, at most `fuel` of them, onto those read before, and what is left. -/
def takeLines (folded : Bool) (indent : Nat) (s : LinesSoFar) :
    Nat → List Mark → Option (LinesSoFar × List Mark)
  | 0, marks => some (s, marks)
  | _, [] => some (s, [])
  | fuel + 1, m :: rest =>
    if m.column ≠ indent || m.char = endChar then some (s, m :: rest)
    else
      let line := (m :: rest).takeWhile fun m => !(isBreak m.char || m.char = endChar)
      let behind := dropLine (m :: rest)
      let (lineEnd, behind) := match behind with
        | b :: after => if isBreak b.char then (some b.char, after) else (none, b :: after)
        | [] => (none, [])
      match skipIndentation (some indent) 0 [] behind with
      | none => none
      | some (empties, _, behind) =>
        let startsBlank := isBlank m.char
        let acc := (line.map Mark.char).reverse ++ s.joined folded startsBlank
        takeLines folded indent ⟨acc, lineEnd, empties, startsBlank⟩ fuel behind

/-- The text of a scalar by lines. -/
def LinesSoFar.text (s : LinesSoFar) (chomping : Chomping) : List Char :=
  let tail := match chomping with
    | .strip => []
    | .clip => s.lineEnd.toList
    | .keep => s.empties ++ s.lineEnd.toList
  (tail ++ s.acc).reverse

/-- The scalar by lines behind its indicator, in text that is indented to a column (or not at all),
and what is left. -/
def takeByLines? (folded : Bool) (around : Int) (marks : List Mark) :
    Option (List Char × List Mark) := do
  let (header, marks) := takeHeader {} false 2 marks
  if header.increment = some 0 then none
  let marks ← restOfLine? marks
  let given := header.increment.map fun n => (max around 0).toNat + n
  let (empties, deepest, marks) ← skipIndentation given 0 [] marks
  let indent := given.getD (max (max deepest (around + 1).toNat) 1)
  let (s, marks) ← takeLines folded indent { empties } marks.length marks
  pure (s.text header.chomping, marks)

end StateMetrics.Yaml
