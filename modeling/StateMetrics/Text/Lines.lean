/-!
# Lines of a text

A text is a list of characters. `splitLines` cuts it at every newline, so a text has one line more
than newlines and a final newline shows as an empty last line; `joinLines` puts newlines between the
lines again. `joinLines_splitLines` and `splitLines_joinLines` say that the two undo each other.
`shownLines` gives the lines as a reader sees them.
-/

namespace StateMetrics.Text

/-- The lines of a text: the pieces between its newlines, at least one. -/
def splitLines : List Char → List (List Char)
  | [] => [[]]
  | c :: text =>
    if c = '\n' then [] :: splitLines text
    else
      match splitLines text with
      | [] => [[c]]
      | line :: lines => (c :: line) :: lines

/-- The lines with a newline between each two. -/
def joinLines : List (List Char) → List Char
  | [] => []
  | [line] => line
  | line :: next :: lines => line ++ '\n' :: joinLines (next :: lines)

/-- The text without the newlines at its end. -/
def dropTrailingNewlines (text : List Char) : List Char :=
  (text.reverse.dropWhile (· = '\n')).reverse

/-- Whether the text's last character is a newline. -/
def endsWithNewline (text : List Char) : Bool := text.getLast? = some '\n'

/-- The text, with a newline put at its end unless one is there. -/
def withNewline (text : List Char) : List Char :=
  if endsWithNewline text then text else text ++ ['\n']

/-- The pieces of a text that each end right behind a newline; the last one may lack it. -/
def splitAfterNewlines : List Char → List (List Char)
  | [] => []
  | c :: text =>
    if c = '\n' then [c] :: splitAfterNewlines text
    else
      match splitAfterNewlines text with
      | [] => [[c]]
      | piece :: pieces => (c :: piece) :: pieces

/-- A piece that ends in a newline without its line end: the newline, and a carriage return in front
of it. -/
def withoutLineEnd (piece : List Char) : List Char :=
  match piece.reverse with
  | '\n' :: '\r' :: line => line.reverse
  | '\n' :: line => line.reverse
  | _ => piece

/-- The lines of a text as it is shown: without their line ends, a newline at the very end starting
no further line. -/
def shownLines (text : List Char) : List (List Char) := (splitAfterNewlines text).map withoutLineEnd

/-! ## Cutting and joining -/

/-- A text has a line, be it an empty one. -/
theorem splitLines_ne_nil (text : List Char) : splitLines text ≠ [] := by
  cases text with
  | nil => simp [splitLines]
  | cons c text =>
    rw [splitLines]
    split
    · simp
    · split <;> simp

/-- A line joined in front of at least one other. -/
theorem joinLines_cons {lines : List (List Char)} (line : List Char) (others : lines ≠ []) :
    joinLines (line :: lines) = line ++ '\n' :: joinLines lines := by
  cases lines with
  | nil => exact absurd rfl others
  | cons next lines => rfl

/-- The lines of a text joined are the text. -/
theorem joinLines_splitLines (text : List Char) : joinLines (splitLines text) = text := by
  induction text with
  | nil => rfl
  | cons c text ih =>
    rw [splitLines]
    split
    · next newline => rw [joinLines_cons [] (splitLines_ne_nil text), ih, newline]; rfl
    · have nonempty := splitLines_ne_nil text
      cases pieces : splitLines text with
      | nil => exact absurd pieces nonempty
      | cons line lines =>
        rw [pieces] at ih
        cases lines with
        | nil => simpa [joinLines] using ih
        | cons next lines => simpa [joinLines] using ih

/-- No line holds a newline. -/
theorem newline_notMem_of_mem_splitLines {text line : List Char} (mem : line ∈ splitLines text) :
    '\n' ∉ line := by
  induction text generalizing line with
  | nil => simp [splitLines] at mem; simp [mem]
  | cons c text ih =>
    rw [splitLines] at mem
    split at mem
    · rcases List.mem_cons.1 mem with rfl | rest
      · simp
      · exact ih rest
    · next other =>
      split at mem
      · simp only [List.mem_singleton] at mem
        subst mem
        simpa using fun h => other h.symm
      · next first lines pieces =>
        rcases List.mem_cons.1 mem with rfl | rest
        · have inner := ih (pieces ▸ List.mem_cons_self)
          simpa [inner] using fun h => other h.symm
        · exact ih (pieces ▸ List.mem_cons_of_mem _ rest)

/-- A line without newlines in front of a text becomes part of the text's first line. -/
theorem splitLines_append {line : List Char} (free : '\n' ∉ line) (text : List Char) :
    splitLines (line ++ '\n' :: text) = line :: splitLines text := by
  induction line with
  | nil => simp [splitLines]
  | cons c line ih =>
    have other : c ≠ '\n' := fun h => free (h ▸ List.mem_cons_self)
    have rest : '\n' ∉ line := fun h => free (List.mem_cons_of_mem _ h)
    simp [splitLines, other, ih rest]

/-- A text without newlines is its only line. -/
theorem splitLines_of_newline_notMem {line : List Char} (free : '\n' ∉ line) :
    splitLines line = [line] := by
  induction line with
  | nil => rfl
  | cons c line ih =>
    have other : c ≠ '\n' := fun h => free (h ▸ List.mem_cons_self)
    have rest : '\n' ∉ line := fun h => free (List.mem_cons_of_mem _ h)
    simp [splitLines, other, ih rest]

/-- Lines without newlines are the lines of the text that they make when joined. -/
theorem splitLines_joinLines {lines : List (List Char)} (nonempty : lines ≠ [])
    (free : ∀ line ∈ lines, '\n' ∉ line) : splitLines (joinLines lines) = lines := by
  induction lines with
  | nil => exact absurd rfl nonempty
  | cons line lines ih =>
    cases lines with
    | nil => exact splitLines_of_newline_notMem (free line List.mem_cons_self)
    | cons next lines =>
      rw [joinLines_cons line (by simp), splitLines_append (free line List.mem_cons_self),
        ih (by simp) fun l mem => free l (List.mem_cons_of_mem _ mem)]

end StateMetrics.Text
