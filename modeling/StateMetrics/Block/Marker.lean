import StateMetrics.Text.Lines

/-!
# Marked blocks

Every instance owns one block of a shared document: a begin marker line with its key, the text of
its resources, an end marker line with its key. This module holds the marker lines, the text of a
block and the search for a block among the lines of a document.
-/

namespace StateMetrics.Block

/-- What a document starts with once it holds blocks. -/
def header : List Char := "kind: CustomResourceStateMetrics\nspec:\n  resources:\n".toList

/-- The line in front of the block of `key`. -/
def beginMarker (key : List Char) : List Char :=
  "# BEGIN CustomResourceStateMetrics ".toList ++ key

/-- The line behind the block of `key`. -/
def endMarker (key : List Char) : List Char :=
  "# END CustomResourceStateMetrics ".toList ++ key

/-- The block of `key` that holds `fragment`, with its final newline. -/
def render (key fragment : List Char) : List Char :=
  beginMarker key ++ '\n' :: (fragment ++ endMarker key ++ ['\n'])

/-- What is known after reading some lines: the place of the last begin marker, and the block whose
end marker came last. -/
structure Search where
  /-- Where the last begin marker stands. -/
  opened : Option Nat
  /-- The last block that was closed. -/
  found : Option (Nat × Nat)
  deriving DecidableEq, Repr

/-- Goes over the lines from the one numbered `index` on. A begin marker replaces an earlier one; an
end marker closes the block of the last begin marker, if there is one. -/
def search (opening closing : List Char) (s : Search) (index : Nat) : List (List Char) → Search
  | [] => s
  | line :: lines =>
    let s' : Search :=
      if line = opening then { s with opened := some index }
      else if line = closing then
        match s.opened with
        | some start => { s with found := some (start, index) }
        | none => s
      else s
    search opening closing s' (index + 1) lines

/-- The numbers of the first and the last line of the block of `key`. Of repeated begin markers the
last one in front of an end marker counts; a begin marker without an end marker is no block. -/
def find (key : List Char) (lines : List (List Char)) : Option (Nat × Nat) :=
  (search (beginMarker key) (endMarker key) ⟨none, none⟩ 0 lines).found

end StateMetrics.Block
