import Mathlib.Data.List.DropRight
import StateMetrics.Text.Lines

/-!
# Texts as lists of lines

`unlines` puts a newline behind every line; a text is the `unlines` of all its lines but the last,
with the last behind it. Cutting and joining are described by it: `splitLines_unlines_append` says
what the lines of a text are that starts with whole lines, `joinLines_concat` what joined lines look
like, and `withNewline_joinLines` and `dropTrailingNewlines_joinLines` what the two ways of ending
joined lines do to empty lines at their end.
-/

namespace StateMetrics.Text

/-- Lines with a newline behind each. -/
def unlines (lines : List (List Char)) : List Char := lines.flatMap (· ++ ['\n'])

/-- The lines without the empty ones at the very end. -/
def trimEnd (lines : List (List Char)) : List (List Char) := lines.rdropWhile (· = [])

/-- Two lists of lines are the same up to the number of empty lines at the very end. -/
def SameLines (a b : List (List Char)) : Prop := trimEnd a = trimEnd b

instance (a b : List (List Char)) : Decidable (SameLines a b) :=
  inferInstanceAs (Decidable (trimEnd a = trimEnd b))

/-! ## Whole lines -/

@[simp] theorem unlines_nil : unlines [] = [] := rfl

@[simp] theorem unlines_cons (line : List Char) (lines : List (List Char)) :
    unlines (line :: lines) = line ++ '\n' :: unlines lines := by
  simp [unlines]

@[simp] theorem unlines_append (a b : List (List Char)) :
    unlines (a ++ b) = unlines a ++ unlines b := by
  simp [unlines]

theorem unlines_eq_nil {lines : List (List Char)} : unlines lines = [] ↔ lines = [] := by
  cases lines <;> simp

/-- Joined lines are whole lines but for the last one. -/
theorem joinLines_concat (lines : List (List Char)) (line : List Char) :
    joinLines (lines ++ [line]) = unlines lines ++ line := by
  induction lines with
  | nil => rfl
  | cons first lines ih =>
    rw [List.cons_append, joinLines_cons first (by simp), ih]
    simp

theorem subset_joinLines {lines : List (List Char)} {line : List Char} (mem : line ∈ lines) :
    line ⊆ joinLines lines := by
  induction lines with
  | nil => cases mem
  | cons first lines ih =>
    cases lines with
    | nil =>
      rw [List.mem_singleton.1 mem]
      exact List.Subset.refl first
    | cons next lines =>
      rw [joinLines]
      rcases List.mem_cons.1 mem with rfl | further
      · exact List.subset_append_left _ _
      · exact List.Subset.trans (ih further)
          (List.Subset.trans (List.subset_cons_self _ _) (List.subset_append_right _ _))

/-- Joined lines with one more newline are whole lines. -/
theorem joinLines_append_newline {lines : List (List Char)} (nonempty : lines ≠ []) :
    joinLines lines ++ ['\n'] = unlines lines := by
  rcases List.eq_nil_or_concat' lines with rfl | ⟨init, last, rfl⟩
  · exact absurd rfl nonempty
  · rw [joinLines_concat]
    simp

/-- Whole lines in front of a text are its first lines. -/
theorem splitLines_unlines_append {lines : List (List Char)}
    (free : ∀ line ∈ lines, '\n' ∉ line) (text : List Char) :
    splitLines (unlines lines ++ text) = lines ++ splitLines text := by
  induction lines with
  | nil => rfl
  | cons line lines ih =>
    have rest := ih fun l mem => free l (List.mem_cons_of_mem _ mem)
    rw [unlines_cons, List.append_assoc, List.cons_append,
      splitLines_append (free line List.mem_cons_self), rest, List.cons_append]

/-- Behind whole lines there is one more line, an empty one. -/
theorem splitLines_unlines {lines : List (List Char)} (free : ∀ line ∈ lines, '\n' ∉ line) :
    splitLines (unlines lines) = lines ++ [[]] := by
  simpa [splitLines] using splitLines_unlines_append free []

/-- A text with a newline behind it is made of whole lines. -/
theorem append_newline (text : List Char) : text ++ ['\n'] = unlines (splitLines text) := by
  rw [← joinLines_append_newline (splitLines_ne_nil text), joinLines_splitLines]

/-- A text has a last line. -/
theorem exists_splitLines_eq_concat (text : List Char) :
    ∃ lines last, splitLines text = lines ++ [last] :=
  (List.eq_nil_or_concat' (splitLines text)).resolve_left (splitLines_ne_nil text)

/-- What stands behind a text becomes part of its last line. -/
theorem splitLines_append_of_splitLines_eq {text : List Char} {lines : List (List Char)}
    {last : List Char} (split : splitLines text = lines ++ [last]) (more : List Char) :
    splitLines (text ++ more) = lines ++ splitLines (last ++ more) := by
  have shape : text = unlines lines ++ last := by
    rw [← joinLines_splitLines text, split, joinLines_concat]
  have free : ∀ line ∈ lines, '\n' ∉ line := fun line mem =>
    newline_notMem_of_mem_splitLines (show line ∈ splitLines text by simp [split, mem])
  rw [shape, List.append_assoc, splitLines_unlines_append free]

/-! ## The newline at the end -/

/-- How a text ends is decided by what stands last in it. -/
theorem endsWithNewline_append {more : List Char} (nonempty : more ≠ []) (text : List Char) :
    endsWithNewline (text ++ more) = endsWithNewline more := by
  simp [endsWithNewline, List.getLast?_append_of_ne_nil _ nonempty]

theorem endsWithNewline_unlines {lines : List (List Char)} (nonempty : lines ≠ []) :
    endsWithNewline (unlines lines) = true := by
  rcases List.eq_nil_or_concat' lines with rfl | ⟨init, last, rfl⟩
  · exact absurd rfl nonempty
  · have shape : unlines (init ++ [last]) = (unlines init ++ last) ++ ['\n'] := by simp
    rw [shape, endsWithNewline_append (by simp)]
    rfl

theorem endsWithNewline_eq_false {line : List Char} (free : '\n' ∉ line) :
    endsWithNewline line = false := by
  rcases List.eq_nil_or_concat' line with rfl | ⟨init, last, rfl⟩
  · rfl
  · rw [endsWithNewline_append (by simp)]
    simpa [endsWithNewline] using fun h : last = '\n' => free (by simp [h])

/-- Joined lines end with a newline when the last of several is empty. -/
theorem endsWithNewline_joinLines_concat {lines : List (List Char)} {last : List Char}
    (free : '\n' ∉ last) :
    endsWithNewline (joinLines (lines ++ [last])) = decide (lines ≠ [] ∧ last = []) := by
  rw [joinLines_concat]
  rcases eq_or_ne last [] with rfl | filled
  · rcases eq_or_ne lines [] with rfl | nonempty
    · rfl
    · simp [endsWithNewline_unlines nonempty, nonempty]
  · rw [endsWithNewline_append filled, endsWithNewline_eq_false free]
    simp [filled]

/-! ## Two ways of ending joined lines -/

/-- The lines without the last one, if it is an empty line behind others. -/
def dropBlankLast (lines : List (List Char)) : List (List Char) :=
  if 2 ≤ lines.length ∧ lines.getLast? = some [] then lines.dropLast else lines

theorem dropBlankLast_subset (lines : List (List Char)) : dropBlankLast lines ⊆ lines := by
  rw [dropBlankLast]
  split
  · exact List.dropLast_subset lines
  · exact List.Subset.refl lines

/-- Joined lines that are made to end with a newline are whole lines, but a last line that is empty
does not show behind another. -/
theorem withNewline_joinLines {lines : List (List Char)} (nonempty : lines ≠ [])
    (free : ∀ line ∈ lines, '\n' ∉ line) :
    withNewline (joinLines lines) = unlines (dropBlankLast lines) := by
  obtain ⟨init, last, rfl⟩ := (List.eq_nil_or_concat' lines).resolve_left nonempty
  rw [withNewline, endsWithNewline_joinLines_concat (free last (by simp))]
  by_cases blank : init ≠ [] ∧ last = []
  · obtain ⟨others, rfl⟩ := blank
    have long : 2 ≤ (init ++ [[]]).length := by
      have := List.length_pos_iff.2 others
      simp only [List.length_append, List.length_singleton]
      omega
    rw [if_pos (by simp [others]), joinLines_concat, dropBlankLast, if_pos ⟨long, by simp⟩]
    simp
  · have kept : dropBlankLast (init ++ [last]) = init ++ [last] := by
      rw [dropBlankLast, if_neg]
      rintro ⟨long, empty⟩
      refine blank ⟨fun alone => ?_, by simpa using empty⟩
      subst alone
      simp at long
    rw [if_neg (by simpa using blank), kept, joinLines_append_newline (by simp)]

theorem trimEnd_concat_nil (lines : List (List Char)) : trimEnd (lines ++ [[]]) = trimEnd lines :=
  List.rdropWhile_concat_pos _ _ _ (by simp)

theorem trimEnd_concat {line : List Char} (shows : line ≠ []) (lines : List (List Char)) :
    trimEnd (lines ++ [line]) = lines ++ [line] :=
  List.rdropWhile_concat_neg _ _ _ (by simp [shows])

/-- Nothing is left exactly of lines that are all empty. -/
theorem trimEnd_eq_nil {lines : List (List Char)} :
    trimEnd lines = [] ↔ ∀ line ∈ lines, line = [] := by
  simp [trimEnd, List.rdropWhile_eq_nil_iff]

/-- Lines of which one shows keep all that stands in front of them. -/
theorem trimEnd_append {b : List (List Char)} (shows : trimEnd b ≠ []) (a : List (List Char)) :
    trimEnd (a ++ b) = a ++ trimEnd b := by
  induction b using List.reverseRecOn with
  | nil => exact absurd rfl shows
  | append_singleton init last ih =>
    rcases eq_or_ne last [] with rfl | filled
    · rw [trimEnd_concat_nil] at shows ⊢
      rw [← List.append_assoc, trimEnd_concat_nil, ih shows]
    · rw [← List.append_assoc, trimEnd_concat filled, trimEnd_concat filled, List.append_assoc]

/-- Empty lines at the end are dropped with those in front of them. -/
theorem trimEnd_append_of_blank {b : List (List Char)} (blank : ∀ line ∈ b, line = [])
    (a : List (List Char)) : trimEnd (a ++ b) = trimEnd a := by
  induction b using List.reverseRecOn with
  | nil => simp
  | append_singleton init last ih =>
    rw [blank last (by simp), ← List.append_assoc, trimEnd_concat_nil,
      ih fun line mem => blank line (by simp [mem])]

/-- Joined lines without the newlines at their end are the lines without the empty ones at their
end, joined. -/
theorem dropTrailingNewlines_joinLines {lines : List (List Char)}
    (free : ∀ line ∈ lines, '\n' ∉ line) :
    dropTrailingNewlines (joinLines lines) = joinLines (trimEnd lines) := by
  induction lines using List.reverseRecOn with
  | nil => rfl
  | append_singleton init last ih =>
    have lastFree : '\n' ∉ last := free last (by simp)
    have initFree : ∀ line ∈ init, '\n' ∉ line := fun line mem => free line (by simp [mem])
    rcases eq_or_ne last [] with rfl | filled
    · rw [trimEnd_concat_nil, ← ih initFree, joinLines_concat, List.append_nil]
      rcases eq_or_ne init [] with rfl | nonempty
      · rfl
      · rw [← joinLines_append_newline nonempty]
        simp [dropTrailingNewlines]
    · rw [trimEnd_concat filled, joinLines_concat]
      obtain ⟨start, c, rfl⟩ := (List.eq_nil_or_concat' last).resolve_left filled
      have other : c ≠ '\n' := fun h => lastFree (by simp [h])
      simp [dropTrailingNewlines, other]

/-! ## Lines up to the empty ones at the end -/

theorem SameLines.of_concat_nil {a b : List (List Char)} (same : SameLines a b) :
    SameLines (a ++ [[]]) b := by
  rw [SameLines, trimEnd_concat_nil]
  exact same

/-- Lines in front do not change what is the same behind them. -/
theorem SameLines.append_left {b c : List (List Char)} (same : SameLines b c)
    (a : List (List Char)) : SameLines (a ++ b) (a ++ c) := by
  have same' : trimEnd b = trimEnd c := same
  rw [SameLines]
  by_cases blank : trimEnd b = []
  · rw [trimEnd_append_of_blank (trimEnd_eq_nil.1 blank),
      trimEnd_append_of_blank (trimEnd_eq_nil.1 (same' ▸ blank))]
  · rw [trimEnd_append blank, trimEnd_append (same' ▸ blank), same']

/-- Lines that end with a line that shows stay together, whatever stands behind them. -/
theorem SameLines.exists_append {lines a c : List (List Char)} {line : List Char}
    (same : SameLines lines (a ++ [line] ++ c)) (shows : line ≠ []) :
    ∃ c', lines = a ++ [line] ++ c' ∧ ∀ l ∈ c', l ≠ [] → l ∈ c := by
  have trimmed : trimEnd (a ++ [line] ++ c) = a ++ [line] ++ trimEnd c := by
    by_cases blank : trimEnd c = []
    · rw [trimEnd_append_of_blank (trimEnd_eq_nil.1 blank), trimEnd_concat shows, blank,
        List.append_nil]
    · exact trimEnd_append blank _
  refine ⟨trimEnd c ++ lines.rtakeWhile (· = []), ?_, fun l mem shows => ?_⟩
  · rw [← List.append_assoc, ← trimmed, ← show trimEnd lines = _ from same]
    exact List.rdropWhile_append_rtakeWhile.symm
  · rcases List.mem_append.1 mem with inside | blank
    · exact (List.rdropWhile_prefix _ _).subset inside
    · exact absurd (by simpa using List.mem_rtakeWhile_imp blank) shows

/-- The lines of joined lines are the joined lines, up to empty ones at the end. -/
theorem sameLines_splitLines_joinLines_trimEnd {lines : List (List Char)}
    (free : ∀ line ∈ lines, '\n' ∉ line) :
    SameLines (splitLines (joinLines (trimEnd lines))) lines := by
  have idempotent : trimEnd (trimEnd lines) = trimEnd lines := List.rdropWhile_idempotent _ _
  by_cases blank : trimEnd lines = []
  · rw [SameLines, blank]
    rfl
  · have inner : ∀ line ∈ trimEnd lines, '\n' ∉ line := fun line mem =>
      free line ((List.rdropWhile_prefix _ _).subset mem)
    rw [splitLines_joinLines blank inner]
    exact idempotent

/-- An empty line in the midst shows exactly when something stands behind it. -/
theorem sameLines_skip_blank_iff (a b : List (List Char)) :
    SameLines (a ++ b) (a ++ [] :: b) ↔ ∀ line ∈ b, line = [] := by
  constructor
  · intro same
    by_contra shows
    have more : trimEnd b ≠ [] := fun h => shows (trimEnd_eq_nil.1 h)
    have whole : trimEnd (a ++ b) = trimEnd ((a ++ [[]]) ++ b) := by simpa [SameLines] using same
    rw [trimEnd_append more, trimEnd_append more] at whole
    simpa using congrArg List.length whole
  · intro blank
    have alsoBlank : ∀ line ∈ ([] : List Char) :: b, line = [] := by simpa using blank
    rw [SameLines, trimEnd_append_of_blank blank, trimEnd_append_of_blank alsoBlank]

end StateMetrics.Text
