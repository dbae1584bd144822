import StateMetrics.Yaml.Token.Lines
import StateMetrics.Yaml.Token.Tag

/-!
# Splitting a YAML text into tokens

Whether a node is a name shows only at the colon behind it, so each node that may be one leaves a
slot in front of it, which stays empty unless a colon makes the node a name. A name has to be
followed by its colon on the same line and within 1024 characters.

Outside of brackets the columns at which lists and maps start are kept; text at a lesser column ends
them.
-/

namespace StateMetrics.Yaml

/-- A node that may turn out to be a name. -/
structure NameSlot where
  /-- The number of the slot in front of it. -/
  slot : Nat
  /-- Whether only a name may stand there. -/
  required : Bool
  /-- Where it starts. -/
  start : Mark
  deriving DecidableEq, Repr, Inhabited

/-- How many characters may lie between the start of a name and its colon. -/
def maxNameLength : Nat := 1024

/-- Whether a mark is too far behind a node for the node to be a name. -/
def NameSlot.isPassed (n : NameSlot) (m : Mark) : Bool :=
  n.start.line < m.line || n.start.index + maxNameLength < m.index

/-- A text while it is split. -/
structure Scan where
  rest : List Mark
  /-- The slots, each with the tokens in it. -/
  slots : Array (List Token) := #[]
  /-- The column of the list or map around, outside of brackets. -/
  indent : Int := -1
  /-- The columns of those around that, the innermost first. -/
  outer : List Int := []
  /-- The node that may be a name, for the text around and for every open bracket, the innermost
  first. -/
  names : List (Option NameSlot) := [none]
  /-- Whether a name may start here. -/
  nameAllowed : Bool := true
  finished : Bool := false
  deriving Repr, Inhabited

namespace Scan

/-- Whether a bracket is open. -/
def inBrackets (s : Scan) : Bool := 1 < s.names.length

/-- The mark that comes next. -/
def here (s : Scan) : Mark := s.rest.headD default

/-- Adds a token. -/
def push (s : Scan) (token : Token) : Scan := { s with slots := s.slots.push [token] }

/-- Puts tokens into a slot, in front of those in it. -/
def fill (s : Scan) (slot : Nat) (tokens : List Token) : Scan :=
  { s with slots := s.slots.modify slot (tokens ++ ·) }

/-- Moves on over so many marks. -/
def skip (s : Scan) (count : Nat) : Scan := { s with rest := s.rest.drop count }

/-- Adds a token of so many characters. -/
def take (s : Scan) (token : Token) (count : Nat) : Scan := (s.push token).skip count

/-! ## Indentation -/

/-- The columns left, and how many lists and maps end, where text stands at a column. -/
def closed (column : Int) (count : Nat) (indent : Int) : List Int → Int × List Int × Nat
  | [] => if column < indent then (-1, [], count + 1) else (indent, [], count)
  | next :: outer =>
    if column < indent then closed column (count + 1) next outer else (indent, next :: outer, count)

/-- Ends the lists and maps that stand behind a column. -/
def unroll (s : Scan) (column : Int) : Scan :=
  if s.inBrackets then s
  else
    let (indent, outer, count) := closed column 0 s.indent s.outer
    { s with indent, outer, slots := s.slots ++ List.replicate count [Token.blockEnd] }

/-- Whether a list or map starts at a column. -/
def isDeeper (s : Scan) (column : Int) : Bool := !s.inBrackets && s.indent < column

/-- Starts a list or map at a column, unless one stands there. -/
def roll (s : Scan) (column : Int) (token : Token) : Scan :=
  if s.isDeeper column then { s.push token with indent := column, outer := s.indent :: s.outer }
  else s

/-! ## Names -/

/-- Gives a node up that may be a name; none if only a name may stand there. -/
def giveUp? : Option NameSlot → Option (Option NameSlot)
  | some n => if n.required then none else some none
  | none => some none

/-- Gives the innermost node up that may be a name. -/
def dropName? (s : Scan) : Option Scan :=
  match s.names with
  | [] => some s
  | first :: names => (giveUp? first).map fun first => { s with names := first :: names }

/-- Gives all nodes up that lie too far back to be names. -/
def dropPassed? (s : Scan) : Option Scan := do
  let names ← s.names.mapM fun name =>
    match name with
    | some n => if n.isPassed s.here then giveUp? (some n) else some (some n)
    | none => some none
  pure { s with names }

/-- Leaves a slot in front of a node, if it may be a name. -/
def saveName? (s : Scan) : Option Scan :=
  if s.nameAllowed then do
    let s ← s.dropName?
    let required := !s.inBrackets && s.indent = s.here.column
    let slot : NameSlot := ⟨s.slots.size, required, s.here⟩
    pure { s with slots := s.slots.push [], names := some slot :: s.names.drop 1 }
  else some s

/-! ## Tokens -/

/-- Where no list, map or name is open any more. -/
def level? (s : Scan) : Option Scan := do
  let s ← (s.unroll (-1)).dropName?
  pure { s with nameAllowed := false }

/-- An opening bracket. -/
def openBracket? (s : Scan) (token : Token) : Option Scan := do
  let s ← s.saveName?
  pure { s.take token 1 with names := none :: s.names, nameAllowed := true }

/-- A closing bracket. -/
def closeBracket? (s : Scan) (token : Token) : Option Scan := do
  let s ← s.dropName?
  let names := if s.inBrackets then s.names.drop 1 else s.names
  pure { s.take token 1 with names, nameAllowed := false }

/-- A comma. -/
def comma? (s : Scan) : Option Scan := do
  let s ← s.dropName?
  pure { s.take .comma 1 with nameAllowed := true }

/-- A dash in front of an item. -/
def item? (s : Scan) : Option Scan := do
  if !s.inBrackets && !s.nameAllowed then none
  let s ← (s.roll s.here.column .blockList).dropName?
  pure { s.take .item 1 with nameAllowed := true }

/-- A question mark in front of a name. -/
def name? (s : Scan) : Option Scan := do
  if !s.inBrackets && !s.nameAllowed then none
  let s ← (s.roll s.here.column .blockMap).dropName?
  pure { s.take .name 1 with nameAllowed := !s.inBrackets }

/-- A colon: the node in front of it was a name, or a value stands alone. -/
def value? (s : Scan) : Option Scan :=
  match s.names with
  | some n :: names =>
    let start : List Token := if s.isDeeper n.start.column then [.blockMap] else []
    let rolled := if s.isDeeper n.start.column then
        { s with indent := n.start.column, outer := s.indent :: s.outer } else s
    let filled := rolled.fill n.slot (start ++ [.name])
    some { filled.take .value 1 with names := none :: names, nameAllowed := false }
  | _ => do
    if !s.inBrackets && !s.nameAllowed then none
    let s := s.roll s.here.column .blockMap
    pure { s.take .value 1 with nameAllowed := !s.inBrackets }

/-- A token for a node or in front of one: it may be a name, and no name may follow it. -/
def node? (s : Scan) (read : List Mark → Option (Token × List Mark)) : Option Scan := do
  let s ← s.saveName?
  let (token, rest) ← read s.rest
  pure { s.push token with rest, nameAllowed := false }

/-- A plain scalar. Behind a line end a name may start. -/
def plain? (s : Scan) : Option Scan := do
  let s ← s.saveName?
  let (text, crossed, rest) ← plainRest s.inBrackets (s.indent + 1) [] .nothing s.rest
  pure { s.push (.scalar text true) with rest, nameAllowed := crossed }

/-- A scalar by lines. -/
def byLines? (s : Scan) (folded : Bool) : Option Scan := do
  let s ← s.dropName?
  let (text, rest) ← takeByLines? folded s.indent (s.rest.drop 1)
  pure { s.push (.scalar text false) with rest, nameAllowed := true }

/-- Takes the next token in, at its first character. -/
def token? (s : Scan) : Option Scan :=
  let c := headChar s.rest
  let following := headChar (s.rest.drop 1)
  let column := s.here.column
  if c = endChar then do
    let s ← s.level?
    pure { s.push .finish with finished := true }
  else if column = 0 && c = '%' then do
    let s ← s.level?
    let (token, rest) ← takeDirective? (s.rest.drop 1)
    pure { s.push token with rest }
  else if startsWithThree '-' s.rest then s.level?.map (·.take .documentStart 3)
  else if startsWithThree '.' s.rest then s.level?.map (·.take .documentEnd 3)
  else if c = '[' then s.openBracket? .openList
  else if c = '\x7b' then s.openBracket? .openMap
  else if c = ']' then s.closeBracket? .closeList
  else if c = '\x7d' then s.closeBracket? .closeMap
  else if c = ',' then s.comma?
  else if c = '-' && isSeparator following then s.item?
  else if c = '?' && (s.inBrackets || isSeparator following) then s.name?
  else if c = ':' && (s.inBrackets || isSeparator following) then s.value?
  else if c = '*' then
    s.node? fun marks => (takeLabel? (marks.drop 1)).map fun (text, rest) => (.reference text, rest)
  else if c = '&' then
    s.node? fun marks => (takeLabel? (marks.drop 1)).map fun (text, rest) => (.label text, rest)
  else if c = '!' then s.node? (takeTag? s.inBrackets)
  else if c = '|' && !s.inBrackets then s.byLines? false
  else if c = '>' && !s.inBrackets then s.byLines? true
  else if c = '\'' then
    s.node? fun marks => (quotedRest false [] .nothing (marks.drop 1)).map fun (text, rest) =>
      (.scalar text false, rest)
  else if c = '"' then
    s.node? fun marks => (quotedRest true [] .nothing (marks.drop 1)).map fun (text, rest) =>
      (.scalar text false, rest)
  else if startsPlain s.inBrackets c following then s.plain?
  else none

/-- Moves to the next token and takes it in. -/
def step? (s : Scan) : Option Scan := do
  let (rest, nameAllowed) := skipFiller s.inBrackets false s.nameAllowed s.rest
  let s ← { s with rest, nameAllowed }.dropPassed?
  (s.unroll s.here.column).token?

/-- Takes tokens in up to the end, at most so many. -/
def run? (s : Scan) : Nat → Option Scan
  | 0 => if s.finished then some s else none
  | fuel + 1 => if s.finished then some s else s.step?.bind (·.run? fuel)

end Scan

/-- The tokens of a text. Every token but the last has a character of its own. -/
def Token.scan? (marks : List Mark) : Option (List Token) :=
  (({ rest := marks } : Scan).run? (marks.length + 1)).map fun s => s.slots.toList.flatten

end StateMetrics.Yaml
