import StateMetrics.Block.Merge
import StateMetrics.Proofs.Block.Range
import StateMetrics.Proofs.Block.Search

/-!
# What stands outside the edited block

A document is cut around the block of a key: the lines before it, its own lines, the lines after it.
`splice_eq` gives the text that results when other text is put in place of the block, and
`sameLines_splice` its lines. The lines before the block are joined and then made to end with a
newline; this loses an empty line right in front of the block, unless it is the document's first.
-/

namespace StateMetrics.Block

open Text

/-! ## The lines of a block -/

/-- The lines of the block of `key` that holds `fragment`. A fragment without a final newline runs
into the end marker. -/
def blockLines (key fragment : List Char) : List (List Char) :=
  beginMarker key :: splitLines (fragment ++ endMarker key)

/-- The text of a block is whole lines. -/
theorem render_eq_unlines (key fragment : List Char) :
    render key fragment = unlines (blockLines key fragment) := by
  rw [blockLines, unlines_cons, ← append_newline]
  rfl

theorem newline_notMem_blockLines {key : List Char} (free : '\n' ∉ key) (fragment : List Char) :
    ∀ line ∈ blockLines key fragment, '\n' ∉ line := by
  intro line mem
  rcases List.mem_cons.1 mem with rfl | mem
  · exact newline_notMem_beginMarker free
  · exact newline_notMem_of_mem_splitLines mem

/-! ## Joining around a block -/

/-- An empty line stands right in front of line `first`, and it is not the first of all. -/
def BlankInFront (lines : List (List Char)) (first : Nat) : Prop :=
  2 ≤ first ∧ lines[first - 1]? = some []

/-- The lines in front of a block are made to end with a newline, if they do not. -/
theorem joinRange_before {before rest : List (List Char)} (nonempty : before ≠ [])
    (more : rest ≠ []) :
    joinRange (before ++ rest) 0 ((before.length : Int) - 1) = withNewline (joinLines before) := by
  have beforePos := List.length_pos_iff.2 nonempty
  have restPos := List.length_pos_iff.2 more
  have count : (before ++ rest).length = before.length + rest.length := List.length_append
  have stop : stopLine (before ++ rest) ((before.length : Int) - 1) = before.length - 1 := by
    rw [stopLine, if_neg (by omega)]
    omega
  have whole : slice (before ++ rest) 0 (before.length - 1) = before := by
    rw [slice, Nat.sub_add_cancel beforePos, List.drop_zero, Nat.sub_zero, List.take_left]
  rw [joinRange_eq (List.append_ne_nil_of_left_ne_nil nonempty rest), stop, Int.toNat_zero,
    if_neg (Nat.not_lt_zero _), if_neg (by omega), whole]

/-- The lines behind a block lose the newlines at their end. -/
theorem joinRange_after {lines : List (List Char)} {last : Nat} (more : last < lines.length - 1) :
    joinRange lines ((last : Int) + 1) (-1) =
      dropTrailingNewlines (joinLines (lines.drop (last + 1))) := by
  have nonempty : lines ≠ [] := List.length_pos_iff.1 (by omega)
  have start : ((last : Int) + 1).toNat = last + 1 := by omega
  have stop : stopLine lines (-1) = lines.length - 1 := if_pos (by omega)
  have rest : slice lines (last + 1) (lines.length - 1) = lines.drop (last + 1) := by
    rw [slice, List.take_of_length_le]
    rw [List.length_drop]
    omega
  rw [joinRange_eq nonempty, stop, start, if_neg (by omega), if_pos rfl, rest]

/-! ## Splicing -/

/-- A text that takes the place of a document: it ends with a newline if the document does, unless it
is empty. -/
def closedLike (document text : List Char) : List Char :=
  if endsWithNewline document && text ≠ [] && !endsWithNewline text then text ++ ['\n'] else text

section Splice

variable {document : List Char} {before block after : List (List Char)}

/-- The text that a splice gives: an empty line last in front of the block is lost, and so are those
at the end of the document. -/
theorem splice_eq (split : splitLines document = before ++ block ++ after) (nonempty : block ≠ [])
    (insert : List Char) :
    splice document (splitLines document) before.length (before.length + block.length - 1) insert =
      closedLike document
        (unlines (dropBlankLast before) ++ insert ++ joinLines (trimEnd after)) := by
  have free : ∀ line ∈ splitLines document, '\n' ∉ line := fun _ =>
    newline_notMem_of_mem_splitLines
  have beforeFree : ∀ line ∈ before, '\n' ∉ line := fun line mem => free line (by simp [split, mem])
  have afterFree : ∀ line ∈ after, '\n' ∉ line := fun line mem => free line (by simp [split, mem])
  have blockPos := List.length_pos_iff.2 nonempty
  have head : (if 0 < before.length
      then joinRange (splitLines document) 0 ((before.length : Int) - 1) else []) =
      unlines (dropBlankLast before) := by
    by_cases first : before = []
    · subst first
      rfl
    · rw [if_pos (List.length_pos_iff.2 first), split, List.append_assoc,
        joinRange_before first (by simp [nonempty]), withNewline_joinLines first beforeFree]
  have tail : (if before.length + block.length - 1 < (splitLines document).length - 1
      then joinRange (splitLines document) (((before.length + block.length - 1 : Nat) : Int) + 1) (-1)
      else []) = joinLines (trimEnd after) := by
    have length : (splitLines document).length = before.length + block.length + after.length := by
      simp [split, Nat.add_assoc]
    by_cases final : after = []
    · subst final
      rw [if_neg (by simp [length])]
      rfl
    · have afterPos := List.length_pos_iff.2 final
      have cut : (splitLines document).drop (before.length + block.length - 1 + 1) = after := by
        have exactly : before.length + block.length - 1 + 1 = (before ++ block).length := by
          rw [List.length_append]
          omega
        rw [exactly, split, List.drop_left]
      have within : before.length + block.length - 1 < (splitLines document).length - 1 := by omega
      rw [if_pos within, joinRange_after within, cut, dropTrailingNewlines_joinLines afterFree]
  rw [splice, head, tail, closedLike]

theorem sameLines_closedLike (document text : List Char) :
    SameLines (splitLines (closedLike document text)) (splitLines text) := by
  rw [closedLike]
  split
  · rw [append_newline, splitLines_unlines fun _ => newline_notMem_of_mem_splitLines]
    exact SameLines.of_concat_nil rfl
  · rfl

/-- The lines of the result: those before the block, but perhaps for an empty one, the inserted ones
and those after the block. -/
theorem sameLines_splice (split : splitLines document = before ++ block ++ after)
    (nonempty : block ≠ []) {insert : List (List Char)} (insertFree : ∀ line ∈ insert, '\n' ∉ line) :
    SameLines
      (splitLines (splice document (splitLines document) before.length
        (before.length + block.length - 1) (unlines insert)))
      (dropBlankLast before ++ insert ++ after) := by
  have free : ∀ line ∈ splitLines document, '\n' ∉ line := fun _ =>
    newline_notMem_of_mem_splitLines
  have afterFree : ∀ line ∈ after, '\n' ∉ line := fun line mem => free line (by simp [split, mem])
  have frontFree : ∀ line ∈ dropBlankLast before ++ insert, '\n' ∉ line := by
    intro line mem
    rcases List.mem_append.1 mem with mem | mem
    · refine free line ?_
      have inBefore := dropBlankLast_subset before mem
      simp [split, inBefore]
    · exact insertFree line mem
  rw [splice_eq split nonempty, ← unlines_append]
  refine (sameLines_closedLike _ _).trans ?_
  rw [splitLines_unlines_append frontFree]
  exact (sameLines_splitLines_joinLines_trimEnd afterFree).append_left _

end Splice

/-- Splicing whole lines, with no empty line at either edge, is exact. -/
theorem splice_unlines {before block after insert : List (List Char)} (nonempty : block ≠ [])
    (free : ∀ line ∈ before ++ block ++ after, '\n' ∉ line)
    (front : before.getLast? ≠ some []) (back : after.getLast? ≠ some []) :
    splice (unlines (before ++ block ++ after)) (splitLines (unlines (before ++ block ++ after)))
        before.length (before.length + block.length - 1) (unlines insert) =
      unlines (before ++ insert ++ after) := by
  have split : splitLines (unlines (before ++ block ++ after)) =
      before ++ block ++ (after ++ [[]]) := by
    rw [splitLines_unlines free, ← List.append_assoc]
  have ends : endsWithNewline (unlines (before ++ block ++ after)) = true :=
    endsWithNewline_unlines (by simp [nonempty])
  have kept : dropBlankLast before = before := if_neg fun blank => front blank.2
  rw [splice_eq split nonempty, kept, trimEnd_concat_nil, ← unlines_append]
  rcases List.eq_nil_or_concat' after with rfl | ⟨init, last, rfl⟩
  · have shape : unlines (before ++ insert) ++ joinLines (trimEnd []) =
        unlines (before ++ insert) := List.append_nil _
    rw [shape, List.append_nil (before ++ insert), closedLike, if_neg]
    intro reopened
    rcases eq_or_ne (before ++ insert) [] with empty | nonempty
    · simp [empty] at reopened
    · simp [-unlines_append, endsWithNewline_unlines nonempty] at reopened
  · have shows : last ≠ [] := by simpa using back
    have open' : endsWithNewline last = false :=
      endsWithNewline_eq_false (free last (by simp))
    rw [trimEnd_concat shows, joinLines_concat, closedLike, ends, ← List.append_assoc,
      endsWithNewline_append shows, open', if_pos (by simp [shows])]
    simp

/-! ## Text that is not the block's -/

/-- An empty line in front of line `first` is what the lines before it lose when they are joined. -/
theorem blankInFront_iff {before rest : List (List Char)} :
    BlankInFront (before ++ rest) before.length ↔ ∃ init, init ≠ [] ∧ before = init ++ [[]] := by
  rcases List.eq_nil_or_concat' before with rfl | ⟨init, last, rfl⟩
  · simp [BlankInFront]
  · have inFront : (init ++ [last] ++ rest)[(init ++ [last]).length - 1]? = some last := by
      simp
    rw [BlankInFront, inFront]
    constructor
    · rintro ⟨long, blank⟩
      obtain rfl : last = [] := Option.some.inj blank
      refine ⟨init, ?_, rfl⟩
      rintro rfl
      simp at long
    · rintro ⟨init', nonempty, same⟩
      obtain ⟨rfl, same⟩ := List.append_inj' same rfl
      obtain rfl : last = [] := by simpa using same
      have pos := List.length_pos_iff.2 nonempty
      refine ⟨?_, rfl⟩
      rw [List.length_append, List.length_singleton]
      omega

theorem dropBlankLast_concat_nil {init : List (List Char)} (nonempty : init ≠ []) :
    dropBlankLast (init ++ [[]]) = init := by
  have pos := List.length_pos_iff.2 nonempty
  have long : 2 ≤ (init ++ [[]]).length := by
    rw [List.length_append, List.length_singleton]
    omega
  rw [dropBlankLast, if_pos ⟨long, by simp⟩, List.dropLast_concat]

/-- Where no empty line stands in front of the block none is lost. -/
theorem dropBlankLast_of_not_blankInFront {before rest : List (List Char)}
    (shows : ¬ BlankInFront (before ++ rest) before.length) : dropBlankLast before = before := by
  refine if_neg ?_
  rintro ⟨long, blank⟩
  obtain ⟨init, rfl⟩ := List.getLast?_eq_some_iff.1 blank
  refine shows (blankInFront_iff.2 ⟨init, ?_, rfl⟩)
  rintro rfl
  simp at long

/-- The lines that a result keeps are all lines outside the block, exactly unless an empty one in
front of the block shows because something other than empty lines follows. -/
theorem sameLines_dropBlankLast_iff {before rest more : List (List Char)} :
    SameLines (dropBlankLast before ++ more) (before ++ more) ↔
      (BlankInFront (before ++ rest) before.length → ∀ line ∈ more, line = []) := by
  by_cases blank : BlankInFront (before ++ rest) before.length
  · obtain ⟨init, nonempty, rfl⟩ := blankInFront_iff.1 blank
    rw [dropBlankLast_concat_nil nonempty, List.append_assoc, List.singleton_append,
      sameLines_skip_blank_iff]
    exact ⟨fun all _ => all, fun all => all blank⟩
  · rw [dropBlankLast_of_not_blankInFront blank]
    exact ⟨fun _ h => absurd h blank, fun _ => rfl⟩

section Found

variable {document key : List Char} {first last : Nat}

/-- Where a block is found the document is cut into the lines before it, its own and those after. -/
theorem exists_cut_of_find (found : find key (splitLines document) = some (first, last)) :
    ∃ before block after, splitLines document = before ++ block ++ after ∧ block ≠ [] ∧
      first = before.length ∧ last = before.length + block.length - 1 := by
  obtain ⟨before, inner, after, cut, -, -, rfl, rfl⟩ := find_eq_some_iff.1 found
  have length : (beginMarker key :: (inner ++ [endMarker key])).length = inner.length + 2 := by simp
  refine ⟨before, beginMarker key :: (inner ++ [endMarker key]), after, ?_, by simp, rfl, ?_⟩
  · rw [cut]
    simp
  · rw [length]
    rfl

/-- What is put in place of the block that was found stands between the lines outside it. -/
theorem sameLines_splice_of_find (found : find key (splitLines document) = some (first, last))
    {insert : List (List Char)} (insertFree : ∀ line ∈ insert, '\n' ∉ line) :
    SameLines (splitLines (splice document (splitLines document) first last (unlines insert)))
      (dropBlankLast ((splitLines document).take first) ++
        (insert ++ (splitLines document).drop (last + 1))) := by
  obtain ⟨before, block, after, split, nonempty, rfl, rfl⟩ := exists_cut_of_find found
  have blockPos := List.length_pos_iff.2 nonempty
  have takeBefore : (splitLines document).take before.length = before := by
    rw [split, List.append_assoc, List.take_left]
  have dropAfter : (splitLines document).drop (before.length + block.length - 1 + 1) = after := by
    have exactly : before.length + block.length - 1 + 1 = (before ++ block).length := by
      rw [List.length_append]
      omega
    rw [exactly, split, List.drop_left]
  rw [takeBefore, dropAfter, ← List.append_assoc]
  exact sameLines_splice split nonempty insertFree

/-- All lines in front of the block are kept, exactly unless an empty one right in front of it
shows. -/
theorem sameLines_outside_iff (found : find key (splitLines document) = some (first, last))
    {lines more : List (List Char)}
    (kept : SameLines lines (dropBlankLast ((splitLines document).take first) ++ more)) :
    SameLines lines ((splitLines document).take first ++ more) ↔
      (BlankInFront (splitLines document) first → ∀ line ∈ more, line = []) := by
  obtain ⟨before, block, after, split, -, rfl, -⟩ := exists_cut_of_find found
  have takeBefore : (splitLines document).take before.length = before := by
    rw [split, List.append_assoc, List.take_left]
  rw [takeBefore] at kept ⊢
  rw [split, List.append_assoc, ← sameLines_dropBlankLast_iff]
  exact ⟨kept.symm.trans, kept.trans⟩

/-- A removal keeps the lines outside the block that is found, but perhaps for an empty one in front
of it. -/
theorem remove_keeps_lines (found : find key (splitLines document) = some (first, last)) :
    ∃ result, remove document key = some result ∧
      SameLines (splitLines result) (dropBlankLast ((splitLines document).take first) ++
        (splitLines document).drop (last + 1)) := by
  have removed : remove document key =
      some (splice document (splitLines document) first last (unlines [])) := by
    rw [remove, found]
    rfl
  exact ⟨_, removed, sameLines_splice_of_find found (by simp)⟩

/-- An upsert keeps the lines outside the block that is found, but perhaps for an empty one in front
of it, and puts the new block between them. -/
theorem upsert_keeps_lines (free : '\n' ∉ key)
    (found : find key (splitLines document) = some (first, last)) (fragment : List Char) :
    upsert document key fragment = .unchanged ∨
      ∃ result, upsert document key fragment = .replaced result ∧
        SameLines (splitLines result) (dropBlankLast ((splitLines document).take first) ++
          (blockLines key fragment ++ (splitLines document).drop (last + 1))) := by
  by_cases same : joinLines (slice (splitLines document) first last) ++ ['\n'] = render key fragment
  · exact .inl (by simp [upsert, found, same])
  · have replaced : upsert document key fragment =
        .replaced (splice document (splitLines document) first last (render key fragment)) := by
      simp only [upsert, found, if_neg same]
    refine .inr ⟨_, replaced, ?_⟩
    rw [render_eq_unlines]
    exact sameLines_splice_of_find found (newline_notMem_blockLines free fragment)

end Found

/-- Taking a block out, or putting another in its place, leaves the lines before and after it, up to
empty ones at the very end, except that an empty line right in front of the block is lost, unless it
is the document's first. -/
theorem edit_keeps_lines_outside_iff {document key : List Char} {first last : Nat}
    (free : '\n' ∉ key) (found : find key (splitLines document) = some (first, last)) :
    let lines := splitLines document
    let before := lines.take first
    let after := lines.drop (last + 1)
    (∃ result, remove document key = some result ∧
      SameLines (splitLines result) (dropBlankLast before ++ after) ∧
      (SameLines (splitLines result) (before ++ after) ↔
        (BlankInFront lines first → ∀ line ∈ after, line = []))) ∧
    ∀ fragment, upsert document key fragment = .unchanged ∨
      ∃ result, upsert document key fragment = .replaced result ∧
        SameLines (splitLines result) (dropBlankLast before ++ (blockLines key fragment ++ after)) ∧
        (SameLines (splitLines result) (before ++ (blockLines key fragment ++ after)) ↔
          ¬ BlankInFront lines first) := by
  intro lines before after
  constructor
  · obtain ⟨result, removed, kept⟩ := remove_keeps_lines found
    exact ⟨result, removed, kept, sameLines_outside_iff found kept⟩
  · intro fragment
    rcases upsert_keeps_lines free found fragment with unchanged | ⟨result, replaced, kept⟩
    · exact .inl unchanged
    · refine .inr ⟨result, replaced, kept, (sameLines_outside_iff found kept).trans ?_⟩
      -- The new block itself stands behind the empty line, so that the line always shows.
      have shows : beginMarker key ∈ blockLines key fragment ++ after := by simp [blockLines]
      exact ⟨fun all blank => beginMarker_ne_nil key (all blank _ shows),
        fun apart blank => absurd blank apart⟩

/-- A document with an empty line between its first line and the block of `k`. -/
def spacedDocument : List Char :=
  unlines [['a'], [], beginMarker ['k'], endMarker ['k'], ['b']]

theorem find_spacedDocument : find ['k'] (splitLines spacedDocument) = some (2, 3) := by
  decide +kernel

/-- A removal from the document and an upsert to it, each of which loses the empty line. -/
theorem edit_spacedDocument :
    find ['k'] (splitLines spacedDocument) = some (2, 3) ∧
    (∃ result, remove spacedDocument ['k'] = some result ∧
      SameLines (splitLines result) [['a'], ['b']]) ∧
    ∃ result, upsert spacedDocument ['k'] ['x', '\n'] = .replaced result ∧
      SameLines (splitLines result) (['a'] :: (blockLines ['k'] ['x', '\n'] ++ [['b']])) := by
  have edited := edit_keeps_lines_outside_iff (by decide) find_spacedDocument
  obtain ⟨⟨removed, isRemoved, removedLines, -⟩, written⟩ := edited
  have replaced := (written ['x', '\n']).resolve_left (by decide +kernel)
  obtain ⟨result, isReplaced, resultLines, -⟩ := replaced
  refine ⟨find_spacedDocument, ⟨removed, isRemoved, ?_⟩, result, isReplaced, ?_⟩
  · exact removedLines.trans (by decide +kernel)
  · exact resultLines.trans (by decide +kernel)

/-- The empty line in front of the block is gone with the block. -/
theorem remove_spacedDocument :
    find ['k'] (splitLines spacedDocument) = some (2, 3) ∧
    remove spacedDocument ['k'] = some ['a', '\n', 'b', '\n'] ∧
    ¬ SameLines (splitLines ['a', '\n', 'b', '\n'])
      ((splitLines spacedDocument).take 2 ++ (splitLines spacedDocument).drop 4) := by
  decide +kernel

end StateMetrics.Block
