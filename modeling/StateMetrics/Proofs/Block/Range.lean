import StateMetrics.Block.Range
import StateMetrics.Proofs.Text.Lines

/-!
# What a range of lines is joined to

A range that reaches the last line is joined without the newlines at its end. Any other range is to
have every line of it with a newline behind, and it has, unless it ends with an empty line behind
others: the newline in front of that line is taken for the one behind it, and the line is gone
(`joinRange_eq_unlines_iff`).
-/

namespace StateMetrics.Block

open Text

variable {lines : List (List Char)}

/-- The number of the last line of a range: the last of all if it is to stop at a negative number or
past the lines. -/
def stopLine (lines : List (List Char)) (stop : Int) : Nat :=
  if stop < 0 ∨ (lines.length : Int) ≤ stop then lines.length - 1 else stop.toNat

theorem stopLine_lt (nonempty : lines ≠ []) (stop : Int) : stopLine lines stop < lines.length := by
  have pos := List.length_pos_iff.2 nonempty
  rw [stopLine]
  split <;> omega

/-- The lines of a range, by their numbers. -/
theorem length_slice {first last : Nat} (inside : last < lines.length) :
    (slice lines first last).length = last + 1 - first := by
  rw [slice, List.length_take, List.length_drop]
  omega

/-- A slice that is inside the list ends with the line it is told to end with. -/
theorem getLast?_slice {first last : Nat} (order : first ≤ last) (inside : last < lines.length) :
    (slice lines first last).getLast? = lines[last]? := by
  rw [List.getLast?_eq_getElem?, length_slice inside, slice, List.getElem?_take_of_lt (by omega),
    List.getElem?_drop]
  congr 1
  omega

/-- What the joined text is, by where the range stops. -/
theorem joinRange_eq (nonempty : lines ≠ []) (start stop : Int) :
    joinRange lines start stop =
      if stopLine lines stop < start.toNat then []
      else if stopLine lines stop = lines.length - 1 then
        dropTrailingNewlines (joinLines (slice lines start.toNat (stopLine lines stop)))
      else withNewline (joinLines (slice lines start.toNat (stopLine lines stop))) := by
  have pos := List.length_pos_iff.2 nonempty
  by_cases reaches : stop < 0 ∨ ((lines.length - 1 : Nat) : Int) ≤ stop
  · have last : stopLine lines stop = lines.length - 1 := by
      rw [stopLine]
      split <;> omega
    simp only [joinRange, decide_eq_true_eq, Bool.or_eq_true, if_pos reaches, if_neg nonempty, last,
      if_true]
  · have last : stopLine lines stop = stop.toNat := if_neg (by omega)
    have inside : stop.toNat ≠ lines.length - 1 := by omega
    simp only [joinRange, decide_eq_true_eq, Bool.or_eq_true, if_neg reaches, if_neg nonempty, last,
      if_neg inside]

/-! ## The newline at the end -/

/-- Newlines were taken off the end of the text, and all of them. -/
theorem dropTrailingNewlines_spec (text : List Char) :
    (∃ n, text = dropTrailingNewlines text ++ List.replicate n '\n') ∧
      endsWithNewline (dropTrailingNewlines text) = false := by
  constructor
  · refine ⟨(text.rtakeWhile (· = '\n')).length, ?_⟩
    have newlines : text.rtakeWhile (· = '\n') =
        List.replicate (text.rtakeWhile (· = '\n')).length '\n' :=
      List.eq_replicate_of_mem fun c mem => by simpa using List.mem_rtakeWhile_imp mem
    rw [← newlines]
    exact List.rdropWhile_append_rtakeWhile.symm
  · rw [endsWithNewline, decide_eq_false_iff_not]
    intro last
    obtain ⟨init, shape⟩ := List.getLast?_eq_some_iff.1 last
    have nonempty : text.rdropWhile (· = '\n') ≠ [] := by
      show dropTrailingNewlines text ≠ []
      simp [shape]
    have other := List.rdropWhile_last_not (fun c => decide (c = '\n')) text nonempty
    have shape : text.rdropWhile (· = '\n') = init ++ ['\n'] := shape
    simp [shape] at other

/-- A last line that is empty does not show behind others. -/
theorem unlines_dropBlankLast_eq_iff (lines : List (List Char)) :
    unlines (dropBlankLast lines) = unlines lines ↔
      ¬ (2 ≤ lines.length ∧ lines.getLast? = some []) := by
  rw [dropBlankLast]
  split
  · next blank =>
    obtain ⟨init, shape⟩ := List.getLast?_eq_some_iff.1 blank.2
    refine iff_of_false (fun same => ?_) (not_not_intro blank)
    rw [shape, List.dropLast_concat, unlines_append] at same
    have lengths := congrArg List.length same
    simp at lengths
  · next shows => exact iff_of_true rfl shows

/-! ## The joined range -/

/-- A range that is turned around is joined to nothing. A range that reaches the last line is joined
and loses all newlines at its end. Any other range is joined to its lines with a newline behind each,
exactly unless the last of several is empty; that one is missing then. -/
theorem joinRange_eq_unlines_iff (nonempty : lines ≠ []) (free : ∀ line ∈ lines, '\n' ∉ line)
    (start stop : Int) :
    let first := start.toNat
    let last := stopLine lines stop
    let range := slice lines first last
    let result := joinRange lines start stop
    (last < first → result = []) ∧
    (first ≤ last → last = lines.length - 1 →
      (∃ n, joinLines range = result ++ List.replicate n '\n') ∧ endsWithNewline result = false) ∧
    (first ≤ last → last < lines.length - 1 →
      result = unlines (dropBlankLast range) ∧
      (result = unlines range ↔ ¬ (first < last ∧ lines[last]? = some []))) := by
  intro first last range result
  have inside : last < lines.length := stopLine_lt nonempty stop
  have joined : result = if last < first then [] else if last = lines.length - 1 then
      dropTrailingNewlines (joinLines range) else withNewline (joinLines range) :=
    joinRange_eq nonempty start stop
  refine ⟨fun turned => by rw [joined, if_pos turned], fun order reaches => ?_,
    fun order within => ?_⟩
  · rw [joined, if_neg (Nat.not_lt.2 order), if_pos reaches]
    exact dropTrailingNewlines_spec _
  · have count : range.length = last + 1 - first := length_slice inside
    have final : range.getLast? = lines[last]? := getLast?_slice order inside
    have rangeSome : range ≠ [] := List.length_pos_iff.1 (by omega)
    have rangeFree : ∀ line ∈ range, '\n' ∉ line := fun line mem =>
      free line (List.mem_of_mem_drop (List.mem_of_mem_take mem))
    have whole : result = unlines (dropBlankLast range) := by
      rw [joined, if_neg (Nat.not_lt.2 order), if_neg (Nat.ne_of_lt within),
        withNewline_joinLines rangeSome rangeFree]
    refine ⟨whole, ?_⟩
    rw [whole, unlines_dropBlankLast_eq_iff, final, count]
    have several : 2 ≤ last + 1 - first ↔ first < last := by omega
    rw [several]

/-- Lines with empty ones among them: a range over all, one over the first three, and one that is an
empty line alone. -/
theorem joinRange_eq_unlines_iff_of_blanks :
    let lines := [['a'], [], ['b'], [], ['c'], [], []]
    lines ≠ [] ∧ (∀ line ∈ lines, '\n' ∉ line) ∧
      (∃ n, joinLines lines = joinRange lines (-7) (-1) ++ List.replicate n '\n') ∧
      joinRange lines (-7) 2 = unlines [['a'], [], ['b']] ∧
      joinRange lines 3 3 = unlines [[]] ∧ joinRange lines 7 100 = [] := by
  intro lines
  have nonempty : lines ≠ [] := by decide
  have free : ∀ line ∈ lines, '\n' ∉ line := by decide
  have joined := joinRange_eq_unlines_iff nonempty free
  refine ⟨nonempty, free, ?_, ?_, ?_, ?_⟩
  · exact ((joined (-7) (-1)).2.1 (by decide) (by decide)).1
  · exact ((joined (-7) 2).2.2 (by decide) (by decide)).2.2 (by decide)
  · exact ((joined 3 3).2.2 (by decide) (by decide)).2.2 (by decide)
  · exact (joined 7 100).1 (by decide)

/-- The empty line at the end of a range is missing, and what follows it stands in its place. -/
theorem joinRange_loses_blank :
    let lines := [['a'], [], ['b']]
    joinRange lines 0 1 = ['a', '\n'] ∧ joinRange lines 0 1 ≠ unlines (slice lines 0 1) := by
  decide

end StateMetrics.Block
