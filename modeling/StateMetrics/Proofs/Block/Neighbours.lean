import StateMetrics.Proofs.Block.Placement

/-!
# Blocks of other keys

A change at one key against the blocks of all others, whatever else stands in the document: markers
without their partners, markers that come more than once, markers of one key inside a block of
another. The lines that are found for a key stand in the document with no end marker of the key
behind them (`Stands`), and a change at another key takes no line out of their midst, puts none into
it and brings no end marker behind them, unless the lines found for its own key overlap them.
-/

namespace StateMetrics.Block

open Text

/-! ## The lines that are found -/

/-- The lines stand in the text as the last block of the key: from a begin marker to an end marker,
with no other begin marker in between and no other end marker behind. -/
structure Stands (key : List Char) (block lines front back : List (List Char)) : Prop where
  cut : lines = front ++ (block ++ back)
  ends : ∃ inner, block = beginMarker key :: (inner ++ [endMarker key]) ∧ beginMarker key ∉ inner
  last : endMarker key ∉ back

namespace Stands

variable {key : List Char} {block lines front back : List (List Char)}

/-- A block that stands among lines is the one that is found. -/
theorem find_eq (stands : Stands key block lines front back) :
    find key lines = some (front.length, front.length + block.length - 1) := by
  obtain ⟨inner, rfl, noBegin⟩ := stands.ends
  have whole : lines = front ++ beginMarker key :: (inner ++ endMarker key :: back) := by
    rw [stands.cut]
    simp
  have length : front.length + (beginMarker key :: (inner ++ [endMarker key])).length - 1 =
      front.length + inner.length + 1 := by
    simp only [List.length_cons, List.length_append, List.length_nil]
    omega
  rw [whole, length]
  exact find_of_block noBegin stands.last

theorem slice_eq (stands : Stands key block lines front back) :
    slice lines front.length (front.length + block.length - 1) = block := by
  obtain ⟨inner, shape, -⟩ := stands.ends
  have positive : 0 < block.length := by
    rw [shape]
    exact Nat.succ_pos _
  have count : front.length + block.length - 1 + 1 - front.length = block.length := by omega
  rw [slice, count, stands.cut, List.drop_left, List.take_left]

theorem take_eq (stands : Stands key block lines front back) : lines.take front.length = front := by
  rw [stands.cut, List.take_left]

theorem drop_eq (stands : Stands key block lines front back) :
    lines.drop (front.length + block.length - 1 + 1) = back := by
  obtain ⟨inner, shape, -⟩ := stands.ends
  have positive : 0 < block.length := by
    rw [shape]
    exact Nat.succ_pos _
  have behind : front.length + block.length - 1 + 1 = (front ++ block).length := by
    rw [List.length_append]
    omega
  rw [behind, stands.cut, ← List.append_assoc, List.drop_left]

/-- The last line of a block shows. -/
theorem exists_concat (stands : Stands key block lines front back) :
    ∃ init, block = init ++ [endMarker key] := by
  obtain ⟨inner, shape, -⟩ := stands.ends
  exact ⟨beginMarker key :: inner, shape⟩

/-- Lines with the block in them, up to empty lines at the very end. -/
theorem of_sameLines (stands : Stands key block lines front back)
    {lines' front' back' : List (List Char)}
    (same : SameLines lines' (front' ++ (block ++ back'))) (noEnd : endMarker key ∉ back') :
    ∃ back'', Stands key block lines' front' back'' := by
  obtain ⟨init, shape⟩ := stands.exists_concat
  have joined : front' ++ (block ++ back') = (front' ++ init) ++ [endMarker key] ++ back' := by
    rw [shape]
    simp
  rw [joined] at same
  obtain ⟨back'', cut, fewer⟩ := same.exists_append (endMarker_ne_nil key)
  refine ⟨back'', ?_, stands.ends, ?_⟩
  · rw [cut, shape]
    simp
  · intro behind
    exact noEnd (fewer _ behind (endMarker_ne_nil key))

end Stands

/-- What is found is a block that stands among the lines. -/
theorem exists_stands_of_find {key : List Char} {lines : List (List Char)} {first last : Nat}
    (found : find key lines = some (first, last)) :
    ∃ block front back, Stands key block lines front back ∧ first = front.length ∧
      last = front.length + block.length - 1 := by
  obtain ⟨front, inner, back, cut, noBegin, noEnd, rfl, rfl⟩ := find_eq_some_iff.1 found
  refine ⟨beginMarker key :: (inner ++ [endMarker key]), front, back, ?_, rfl, ?_⟩
  · refine ⟨?_, ⟨inner, rfl, noBegin⟩, noEnd⟩
    rw [cut]
    simp
  · simp only [List.length_cons, List.length_append, List.length_nil]
    omega

/-! ## Two blocks side by side -/

section SideBySide

variable {α : Type} {a b c a' b' c' : List α}

/-- Of two pieces of a list the one that ends before the other begins lies in front of it. -/
theorem exists_between (whole : a ++ (b ++ c) = a' ++ (b' ++ c'))
    (earlier : a.length + b.length ≤ a'.length) : ∃ mid, a' = a ++ (b ++ mid) := by
  rw [← List.append_assoc] at whole
  have shorter : (a ++ b).length ≤ a'.length := by
    rw [List.length_append]
    exact earlier
  obtain ⟨mid, split⟩ := (List.prefix_of_prefix_length_le ⟨c, rfl⟩ ⟨b' ++ c', whole.symm⟩ shorter)
  refine ⟨mid, ?_⟩
  rw [← split, List.append_assoc]

end SideBySide

/-- Lines without the empty one at their end still have a block that stands among them. -/
theorem exists_dropBlankLast_eq (front block mid : List (List Char)) {line : List Char}
    (shows : line ≠ []) : ∃ mid', dropBlankLast (front ++ (block ++ [line] ++ mid)) =
      front ++ (block ++ [line] ++ mid') ∧ mid' ⊆ mid := by
  rcases List.eq_nil_or_concat' mid with rfl | ⟨init, last, rfl⟩
  · refine ⟨[], ?_, List.Subset.refl _⟩
    have kept : ¬ (2 ≤ (front ++ (block ++ [line] ++ [])).length ∧
        (front ++ (block ++ [line] ++ [])).getLast? = some []) := by
      rintro ⟨-, blank⟩
      simp [shows] at blank
    exact if_neg kept
  · rw [dropBlankLast]
    split
    · refine ⟨init, ?_, List.subset_append_left _ _⟩
      rw [← List.append_assoc, ← List.append_assoc, List.dropLast_concat, List.append_assoc]
    · exact ⟨init ++ [last], rfl, List.Subset.refl _⟩

/-! ## The lines of the changed document -/

section Changes

variable {change : Change} {document key : List Char}

/-- A change leaves the document as it is; or it puts its lines in place of those that are found; or
it puts them at the end of a text that is no placeholder. -/
theorem Change.lines_cases (free : '\n' ∉ change.key) (document : List Char) :
    (change.edit document).2 = document ∨
    (∃ block front back, Stands change.key block (splitLines document) front back ∧
      SameLines (splitLines (change.edit document).2)
        (dropBlankLast front ++ (change.lines ++ back))) ∨
    (isPlaceholder document = false → ∃ front, SameLines front (splitLines document) ∧
      splitLines (change.edit document).2 = front ++ (change.lines ++ [[]])) := by
  cases change with
  | upsert key fragment =>
    rw [Change.key_upsert] at free ⊢
    cases found : find key (splitLines document) with
    | none =>
      refine .inr (.inr fun text => ?_)
      obtain ⟨front, cut, same⟩ := exists_front_of_base free document fragment
      refine ⟨front, same, ?_⟩
      simp only [Change.edit, upsert_of_absent found, append, text, Bool.false_eq_true, if_false]
      exact cut
    | some place =>
      rcases upsert_keeps_lines free found fragment with unchanged | ⟨result, replaced, kept⟩
      · exact .inl (by simp only [Change.edit, unchanged])
      · obtain ⟨block, front, back, stands, first, last⟩ := exists_stands_of_find found
        rw [first, last, stands.take_eq, stands.drop_eq] at kept
        refine .inr (.inl ⟨block, front, back, stands, ?_⟩)
        simp only [Change.edit, replaced]
        exact kept
  | remove key =>
    rw [Change.key_remove] at free ⊢
    cases found : find key (splitLines document) with
    | none =>
      have absent : Block.remove document key = none := by
        simp only [Block.remove, found, Option.map_none]
      exact .inl (by simp only [Change.edit, absent])
    | some place =>
      obtain ⟨result, removed, kept⟩ := remove_keeps_lines found
      obtain ⟨block, front, back, stands, first, last⟩ := exists_stands_of_find found
      rw [first, last, stands.take_eq, stands.drop_eq] at kept
      refine .inr (.inl ⟨block, front, back, stands, ?_⟩)
      simp only [Change.edit, removed]
      exact kept

/-- No line that a change puts into the document is a marker of another key. -/
theorem Change.endMarker_notMem_lines (sound : change.Sound) (differ : change.key ≠ key) :
    endMarker key ∉ change.lines := by
  intro inside
  have mark : endMarker key ∈ marks key change.lines :=
    List.mem_filter.2 ⟨inside, by simp⟩
  rw [Change.marks_lines_of_ne sound differ] at mark
  cases mark

/-- The lines that are found for one key stand in the document still when the document is changed at
another one, unless the lines that are found for that one overlap them. -/
theorem Stands.edit {block front back : List (List Char)} (sound : change.Sound)
    (differ : change.key ≠ key) (stands : Stands key block (splitLines document) front back)
    (apart : ∀ own before behind, Stands change.key own (splitLines document) before behind →
      front.length + block.length ≤ before.length ∨ before.length + own.length ≤ front.length) :
    ∃ front' back', Stands key block (splitLines (change.edit document).2) front' back' := by
  have free : '\n' ∉ change.key := by
    cases change with
    | upsert => exact sound.1
    | remove => exact sound
  have noEnd := Change.endMarker_notMem_lines sound differ
  rcases Change.lines_cases free document with same | ⟨own, before, behind, ours, same⟩ | appended
  · rw [same]
    exact ⟨front, back, stands⟩
  · have whole : front ++ (block ++ back) = before ++ (own ++ behind) := stands.cut.symm.trans ours.cut
    rcases apart own before behind ours with earlier | later
    · -- The block stands in front of the lines that are replaced.
      obtain ⟨mid, split⟩ := exists_between whole earlier
      obtain ⟨init, shape⟩ := stands.exists_concat
      rw [split, shape] at same
      obtain ⟨mid', cut, fewer⟩ :=
        exists_dropBlankLast_eq front init mid (endMarker_ne_nil key)
      rw [cut, ← shape, List.append_assoc, List.append_assoc] at same
      have back_eq : back = mid ++ (own ++ behind) := by
        have rest := whole
        rw [split, List.append_assoc, List.append_assoc] at rest
        exact List.append_cancel_left (List.append_cancel_left rest)
      have last := stands.last
      rw [back_eq, List.mem_append, List.mem_append, not_or, not_or] at last
      have noEnd' : endMarker key ∉ mid' ++ (change.lines ++ behind) := by
        rw [List.mem_append, List.mem_append, not_or, not_or]
        exact ⟨fun inside => last.1 (fewer inside), noEnd, last.2.2⟩
      obtain ⟨back', stands'⟩ := stands.of_sameLines same noEnd'
      exact ⟨front, back', stands'⟩
    · -- The block stands behind them.
      obtain ⟨mid, split⟩ := exists_between whole.symm later
      have behind_eq : behind = mid ++ (block ++ back) := by
        have rest := whole
        rw [split, List.append_assoc, List.append_assoc] at rest
        exact (List.append_cancel_left (List.append_cancel_left rest)).symm
      have regroup : dropBlankLast before ++ (change.lines ++ behind) =
          (dropBlankLast before ++ (change.lines ++ mid)) ++ (block ++ back) := by
        rw [behind_eq]
        simp
      rw [regroup] at same
      obtain ⟨back', stands'⟩ := stands.of_sameLines same stands.last
      exact ⟨_, back', stands'⟩
  · have text : isPlaceholder document = false := by
      rw [Bool.eq_false_iff]
      intro placeholder
      have absent := find_of_isPlaceholder placeholder key
      rw [stands.find_eq] at absent
      cases absent
    obtain ⟨start, same, cut⟩ := appended text
    rw [stands.cut] at same
    obtain ⟨back', stands'⟩ := stands.of_sameLines same stands.last
    refine ⟨front, back' ++ (change.lines ++ [[]]), ?_, stands.ends, ?_⟩
    · rw [cut, stands'.cut, List.append_assoc, List.append_assoc]
    · rw [List.mem_append, List.mem_append, List.mem_singleton, not_or, not_or]
      exact ⟨stands'.last, noEnd, endMarker_ne_nil key⟩

end Changes

/-! ## Keys apart -/

/-- A change at one key brings no block of another into a document, and a block of another key that
is found there is found with the very same lines afterwards, unless it overlaps the one that the
change is about. -/
theorem find_edit_of_other_key {change : Change} {document key : List Char}
    (allowed : change.Allowed) (differ : change.key ≠ key) :
    let lines := splitLines document
    let lines' := splitLines (change.edit document).2
    (find key lines = none → find key lines' = none) ∧
    ∀ first last, find key lines = some (first, last) →
      (∀ first' last', find change.key lines = some (first', last') →
        last < first' ∨ last' < first) →
      ∃ first' last', find key lines' = some (first', last') ∧
        slice lines' first' last' = slice lines first last := by
  intro lines lines'
  have sound := allowed.sound
  refine ⟨(Change.edits sound document).find_of_ne sound differ, ?_⟩
  intro first last found apart
  obtain ⟨block, front, back, stands, rfl, rfl⟩ := exists_stands_of_find found
  obtain ⟨front', back', stands'⟩ := stands.edit sound differ fun own before behind ours => by
    obtain ⟨inner, shape, -⟩ := ours.ends
    have positive : 0 < own.length := shape ▸ Nat.succ_pos _
    have separate := apart _ _ ours.find_eq
    omega
  exact ⟨_, _, stands'.find_eq, by rw [stands'.slice_eq, stands.slice_eq]⟩

/-- A document in which the block of `b` stands behind a begin marker of `b` inside the block of
`a`. -/
def crossedDocument : List Char :=
  unlines [beginMarker ['a'], beginMarker ['b'], endMarker ['a'], [], beginMarker ['b'], ['x'],
    endMarker ['b']]

/-- The change at `a` takes the first begin marker of `b` with it, but not the block of `b`. -/
theorem find_edit_crossedDocument :
    let change := Change.upsert ['a'] ['y', '\n']
    let lines := splitLines crossedDocument
    let lines' := splitLines (change.edit crossedDocument).2
    change.Allowed ∧ find ['a'] lines = some (0, 2) ∧ find ['b'] lines = some (4, 6) ∧
      find ['c'] lines' = none ∧
      ∃ first last, find ['b'] lines' = some (first, last) ∧
        slice lines' first last = [beginMarker ['b'], ['x'], endMarker ['b']] := by
  intro change lines lines'
  have own : find ['a'] lines = some (0, 2) := by decide +kernel
  have found : find ['b'] lines = some (4, 6) := by decide +kernel
  have allowed : change.Allowed := by
    refine ⟨by decide, by decide, ?_⟩
    have heads : ∀ line ∈ splitLines ['y', '\n'], line.head? ≠ some '#' := by decide
    intro line mem marker
    exact heads line mem marker.head?
  obtain ⟨absent, -⟩ := @find_edit_of_other_key change crossedDocument ['c'] allowed (by decide)
  obtain ⟨-, kept⟩ := @find_edit_of_other_key change crossedDocument ['b'] allowed (by decide)
  obtain ⟨first, last, found', same⟩ := kept 4 6 found fun first' last' place => by
    obtain ⟨rfl, rfl⟩ := Prod.mk.inj (Option.some.inj (own.symm.trans place))
    exact .inr (by decide)
  refine ⟨allowed, own, found, absent (by decide +kernel), first, last, found', ?_⟩
  exact same.trans (by decide +kernel)

end StateMetrics.Block
