/-!
# Control sequences

Text may hold sequences that no reader sees: they tell a terminal to colour what follows, to move
about or to take in a string of its own. `withoutControls` leaves out such sequences and all other
control characters except those that part words and lines.

A sequence ends at the first character that cannot belong to it, or at one that ends it; an escape
character begins a new one wherever it stands. A character that parts words is shown even inside a
sequence, which then goes on at the next character that is not shown.
-/

namespace StateMetrics.Text.Control

/-- Where in a sequence a terminal is. -/
inductive State where
  /-- In no sequence. -/
  | ground
  /-- Behind the escape character. -/
  | escape
  /-- In a sequence that is one character and what stands in front of it. -/
  | escapeIntermediate
  /-- At the start of a sequence with parameters. -/
  | entry
  | parameters
  | intermediate
  /-- In a sequence with parameters that makes no sense. -/
  | ignored
  /-- At the start of a string for the device. -/
  | deviceEntry
  | deviceParameters
  | deviceIntermediate
  | deviceIgnored
  | deviceString
  /-- In a string for the operating system. -/
  | systemString
  /-- In a string for anyone else. -/
  | otherString
  deriving DecidableEq, Repr, Inhabited

/-- Whether a control character parts words or lines. -/
def partsWords (n : Nat) : Bool := n = 9 || n = 10 || n = 12 || n = 13

/-- The state that a state goes to by a character of ASCII that is no control character, if it
changes. -/
def State.next? (n : Nat) : State → Option State
  | ground => none
  | escape =>
    if n < 0x30 then some escapeIntermediate
    else if n = 0x50 then some deviceEntry
    else if n = 0x58 ∨ n = 0x5E ∨ n = 0x5F then some otherString
    else if n = 0x5B then some entry
    else if n = 0x5D then some systemString
    else some ground
  | escapeIntermediate => if n < 0x30 then none else some ground
  | entry =>
    if n < 0x30 then some intermediate else if n < 0x40 then some parameters else some ground
  | parameters =>
    if n < 0x30 then some intermediate
    else if n < 0x3C then none
    else if n < 0x40 then some ignored
    else some ground
  | intermediate =>
    if n < 0x30 then none else if n < 0x40 then some ignored else some ground
  | ignored => if n < 0x40 then none else some ground
  | deviceEntry =>
    if n < 0x30 then some deviceIntermediate
    else if n < 0x40 then some deviceParameters
    else some deviceString
  | deviceParameters =>
    if n < 0x30 then some deviceIntermediate
    else if n < 0x3C then none
    else if n < 0x40 then some deviceIgnored
    else some deviceString
  | deviceIntermediate =>
    if n < 0x30 then none else if n < 0x40 then some deviceIgnored else some deviceString
  | deviceIgnored => none
  | deviceString => none
  | systemString => none
  | otherString => none

/-- Whether control characters keep their meaning in a state, or belong to a string. -/
def State.obeysControls : State → Bool
  | ground | escape | escapeIntermediate | entry | parameters | intermediate | ignored => true
  | _ => false

/-- The bytes of a character behind its first. -/
def furtherBytes (c : Char) : List UInt8 := ((String.ofList [c]).toUTF8.toList).drop 1

/-- Takes a character in: the state behind it, and whether it is shown. -/
def State.step (s : State) (c : Char) : State × Bool :=
  let n := c.toNat
  if 0x80 ≤ n then
    -- A string may end in the middle of a character; nothing of that character is shown.
    if s = ground then (ground, true)
    else if (s = deviceString || s = otherString) && (furtherBytes c).contains 0x9C then
      (ground, false)
    else (s, false)
  else if n = 0x18 || n = 0x1A then (ground, false)
  else if n = 0x1B then (escape, false)
  else if n = 0x7F then (s, false)
  else if n < 0x20 then
    if s = systemString && n = 7 then (ground, false)
    else (s, s.obeysControls && partsWords n)
  else ((s.next? n).getD s, s = ground)

/-- Takes a character in while characters are shown: it is looked at as if in no sequence, and the
sequence that is still open stays open unless the character ends it. -/
def State.stepShown (s : State) (c : Char) : State × Bool :=
  let (after, isShown) := ground.step c
  if 0x80 ≤ c.toNat then (ground, isShown)
  else (if after = ground && c.toNat ≠ 0x18 && c.toNat ≠ 0x1A then s else after, isShown)

/-- What is shown of a text, from a state on, while characters are shown or not. -/
def shown (s : State) (showing : Bool) : List Char → List Char
  | [] => []
  | c :: rest =>
    let (here, isShown) := if showing then s.stepShown c else (s, false)
    if isShown then c :: shown here true rest
    else
      let (after, isShown) := here.step c
      if isShown then c :: shown (after.stepShown c).1 true rest else shown after false rest

end StateMetrics.Text.Control

namespace StateMetrics.Text

/-- A text without its control sequences. -/
def withoutControls (text : List Char) : List Char := Control.shown .ground false text

end StateMetrics.Text
