import StateMetrics.Text.Lines

/-!
# Joining a range of lines

`joinRange` joins the lines from one number to another. A range that reaches the last line loses
the newlines at its end; any other range ends with a newline, so that what follows it starts on a
line of its own.
-/

namespace StateMetrics.Block

open Text

/-- The lines numbered `first` to `last`, both included. -/
def slice (lines : List (List Char)) (first last : Nat) : List (List Char) :=
  (lines.drop first).take (last + 1 - first)

/-- The lines from `start` to `stop` joined. A negative `start` means the first line; a negative
`stop` and one past the last line mean the last line. -/
def joinRange (lines : List (List Char)) (start stop : Int) : List Char :=
  let last := lines.length - 1
  let first := start.toNat
  let reachesLast := stop < 0 || (last : Int) ≤ stop
  let final := if reachesLast then last else stop.toNat
  if lines = [] then []
  else if final < first then []
  else
    let text := joinLines (slice lines first final)
    if reachesLast then dropTrailingNewlines text else withNewline text

end StateMetrics.Block
