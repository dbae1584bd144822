import StateMetrics.Yaml.Mark

/-!
# Reading scalars in a line

Plain and quoted scalars may go on over several lines. What stands between two words of a scalar,
its gap, is kept if it is blanks; of line ends the first becomes a space, unless more follow or it
is a separator in its own right.
-/

namespace StateMetrics.Yaml

/-- What was read since the last word of a scalar. -/
inductive Gap where
  | nothing
  /-- Blanks, the last first. -/
  | blanks (reversed : List Char)
  /-- A line end, unless it was escaped, and the further ones, the last first. -/
  | lines (first : Option Char) (more : List Char)
  deriving DecidableEq, Repr, Inhabited

namespace Gap

/-- The gap with a blank more. -/
def addBlank (c : Char) : Gap → Gap
  | nothing => blanks [c]
  | blanks reversed => blanks (c :: reversed)
  | lines first more => lines first more

/-- The gap with a line end more. -/
def addBreak (c : Char) : Gap → Gap
  | lines first more => lines first (c :: more)
  | _ => lines (some c) []

/-- Whether the gap goes over a line end. -/
def crossesLine : Gap → Bool
  | lines .. => true
  | _ => false

/-- What the gap stands for, the last character first. -/
def reversedText : Gap → List Char
  | nothing => []
  | blanks reversed => reversed
  | lines (some '\n') [] => [' ']
  | lines (some '\n') more => more
  | lines (some c) more => more ++ [c]
  | lines none more => more

end Gap

/-! ## Plain scalars -/

/-- The characters that structure a list or map in brackets. -/
def bracketChars : List Char := [',', '[', ']', '\x7b', '\x7d']

/-- The characters that start something other than a plain scalar. -/
def indicators : List Char :=
  ['-', '?', ':', '#', '&', '*', '!', '|', '>', '\'', '"', '%', '@', '`'] ++ bracketChars

/-- Whether a plain scalar may start with a character, by the one that follows. -/
def startsPlain (inBrackets : Bool) (c following : Char) : Bool :=
  !(isSeparator c || indicators.contains c)
    || (c = '-' && !isBlank following)
    || (!inBrackets && (c = '?' || c = ':') && !isSeparator following)

/-- Whether a plain scalar ends in front of a character, by the one that follows. -/
def endsPlain (inBrackets : Bool) (c following : Char) : Bool :=
  (c = ':' && isSeparator following) || (inBrackets && bracketChars.contains c)

/-- Whether a character must not stand in a plain scalar, by the one that follows. -/
def spoilsPlain (inBrackets : Bool) (c following : Char) : Bool :=
  inBrackets && c = ':' && (following = '?' || bracketChars.contains following)

/-- The rest of a plain scalar, onto what was read before (the last first), with whether a line end
stands behind it and what is left. Further lines are those that start at the column `indent` or
behind it, or any in brackets; a tab in front of that column is refused. -/
def plainRest (inBrackets : Bool) (indent : Int) (acc : List Char) (gap : Gap) :
    List Mark → Option (List Char × Bool × List Mark)
  | [] => some (acc.reverse, gap.crossesLine, [])
  | m :: rest =>
    let following := headChar rest
    if isBlank m.char then
      if m.char = '\t' && gap.crossesLine && (m.column : Int) < indent then none
      else plainRest inBrackets indent acc (gap.addBlank m.char) rest
    else if isBreak m.char then plainRest inBrackets indent acc (gap.addBreak m.char) rest
    else
      let ends := m.char = endChar
        || (gap ≠ .nothing && (m.char = '#' || atMarker (m :: rest)
          || (!inBrackets && (m.column : Int) < indent)))
      if ends then some (acc.reverse, gap.crossesLine, m :: rest)
      else if spoilsPlain inBrackets m.char following then none
      else if endsPlain inBrackets m.char following then
        some (acc.reverse, gap.crossesLine, m :: rest)
      else plainRest inBrackets indent (m.char :: (gap.reversedText ++ acc)) .nothing rest

/-! ## Quoted scalars -/

/-- The value of a digit of sixteen, in either case. -/
def hexValue? (c : Char) : Option Nat :=
  if '0' ≤ c ∧ c ≤ '9' then some (c.toNat - '0'.toNat)
  else if 'a' ≤ c ∧ c ≤ 'f' then some (c.toNat - 'a'.toNat + 10)
  else if 'A' ≤ c ∧ c ≤ 'F' then some (c.toNat - 'A'.toNat + 10)
  else none

/-- The number that digits of sixteen write. -/
def hexNumber? (digits : List Char) : Option Nat :=
  digits.foldlM (fun n c => (hexValue? c).map (16 * n + ·)) 0

/-- The character of a code point, unless it is half of a pair or too large. -/
def character? (n : Nat) : Option Char := if n.isValidChar then some (Char.ofNat n) else none

/-- The character that a backslash and a letter stand for. -/
def escaped? : Char → Option Char
  | '0' => some '\x00'
  | 'a' => some '\x07'
  | 'b' => some '\x08'
  | 't' => some '\t'
  | '\t' => some '\t'
  | 'n' => some '\n'
  | 'v' => some '\x0b'
  | 'f' => some '\x0c'
  | 'r' => some '\r'
  | 'e' => some '\x1b'
  | ' ' => some ' '
  | '"' => some '"'
  | '/' => some '/'
  | '\\' => some '\\'
  | 'N' => some '\u0085'
  | '_' => some '\u00a0'
  | 'L' => some '\u2028'
  | 'P' => some '\u2029'
  | _ => none

/-- How many digits follow the letter of a numeric escape. -/
def escapeWidth? : Char → Option Nat
  | 'x' => some 2
  | 'u' => some 4
  | 'U' => some 8
  | _ => none

/-- The character that is escaped, behind the backslash, and what is left. -/
def takeEscape? : List Mark → Option (Char × List Mark)
  | [] => none
  | m :: rest =>
    match escapeWidth? m.char with
    | some width =>
      if rest.length < width then none
      else do
        let value ← hexNumber? ((rest.take width).map Mark.char)
        let c ← character? value
        pure (c, rest.drop width)
    | none => (escaped? m.char).map fun c => (c, rest)

/-- An escape takes at least one mark, so that the reading of a quoted text ends. -/
theorem length_of_takeEscape? {marks rest : List Mark} {c : Char}
    (taken : takeEscape? marks = some (c, rest)) : rest.length < marks.length := by
  cases marks with
  | nil => simp [takeEscape?] at taken
  | cons m marks =>
    rw [takeEscape?] at taken
    split at taken
    · split at taken
      · cases taken
      · simp only [Option.bind_eq_bind, Option.bind_eq_some_iff, Option.pure_def,
          Option.some.injEq, Prod.mk.injEq] at taken
        obtain ⟨_, _, _, _, _, rfl⟩ := taken
        rw [List.length_drop, List.length_cons]; omega
    · simp only [Option.map_eq_some_iff, Prod.mk.injEq] at taken
      obtain ⟨_, _, _, rfl⟩ := taken
      simp

/-- The rest of a scalar in single or double quotes, onto what was read before (the last first),
with what is left behind the closing quote. Markers of documents are refused. -/
def quotedRest (double : Bool) (acc : List Char) (gap : Gap) (marks : List Mark) :
    Option (List Char × List Mark) :=
  match marks with
  | [] => none
  | m :: rest =>
    if m.char = endChar then none
    else if isBlank m.char then quotedRest double acc (gap.addBlank m.char) rest
    else if isBreak m.char then quotedRest double acc (gap.addBreak m.char) rest
    else if gap.crossesLine && atMarker (m :: rest) then none
    else
      let acc := gap.reversedText ++ acc
      if m.char = '\'' && !double then
        match rest with
        | n :: rest =>
          if n.char = '\'' then quotedRest double ('\'' :: acc) .nothing rest
          else some (acc.reverse, n :: rest)
        | [] => some (acc.reverse, [])
      else if m.char = '"' && double then some (acc.reverse, rest)
      else if m.char = '\\' && double then
        if isBreak (headChar rest) then quotedRest double acc (.lines none []) (rest.drop 1)
        else
          match taken : takeEscape? rest with
          | none => none
          | some (c, after) =>
            have := length_of_takeEscape? taken
            quotedRest double (c :: acc) .nothing after
      else quotedRest double (m.char :: acc) .nothing rest
  termination_by marks.length
  decreasing_by all_goals grind

end StateMetrics.Yaml
