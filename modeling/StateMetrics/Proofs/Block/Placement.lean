import StateMetrics.Proofs.Block.Marks

/-!
# Putting a block twice

Whatever text a document holds: the lines of a block are there right after it was put
(`hasLines_edit_upsert`). A closed block is found then (`located_edit_upsert`), and putting it again
changes nothing. A block that runs into its end marker is never found, even if it was put in place of
one that was (`find_edit_upsert_of_open`); put again it comes a second time.
-/

namespace StateMetrics.Block

open Text

variable {key fragment document : List Char} {front after : List (List Char)}

/-- The block that is found has all the lines from its begin marker to its end marker. -/
theorem located_of_block {before inner : List (List Char)}
    (cut : splitLines document = before ++ beginMarker key :: (inner ++ endMarker key :: after))
    (noBegin : beginMarker key ∉ inner) (noEnd : endMarker key ∉ after) :
    located document key = some (unlines (beginMarker key :: (inner ++ [endMarker key]))) := by
  have isFound : find key (splitLines document) =
      some (before.length, before.length + inner.length + 1) := cut ▸ find_of_block noBegin noEnd
  rw [located, isFound, Option.map_some, ← joinLines_append_newline (by simp)]
  exact congrArg (fun lines => some (joinLines lines ++ ['\n'])) (cut_of_block cut).2.2

/-- No begin marker of any key is among the lines of a tame fragment that closes. -/
theorem Tame.beginMarker_notMem (tame : Tame fragment) (closed : closes fragment = true)
    (key : List Char) : beginMarker key ∉ splitLines fragment := by
  obtain ⟨init, last, split⟩ := exists_splitLines_eq_concat fragment
  obtain rfl : last = [] := (closes_iff_last split).1 closed
  intro mem
  rw [split, List.mem_append, List.mem_singleton] at mem
  exact mem.elim (fun inside => (tame init [] split).1 _ inside (isMarker_beginMarker key))
    (beginMarker_ne_nil key)

/-- A closed block without another begin marker of its key in it, and without an end marker behind
it, is found. -/
theorem located_of_cut (free : '\n' ∉ key) (closed : closes fragment = true)
    (noBegin : beginMarker key ∉ splitLines fragment)
    (cut : splitLines document = front ++ (blockLines key fragment ++ after))
    (noEnd : endMarker key ∉ after) : located document key = some (render key fragment) := by
  obtain ⟨init, last, split⟩ := exists_splitLines_eq_concat fragment
  obtain rfl : last = [] := (closes_iff_last split).1 closed
  have shape : blockLines key fragment = beginMarker key :: (init ++ [endMarker key]) :=
    blockLines_eq free split
  have inside : beginMarker key ∉ init := fun mem => noBegin (by simp [split, mem])
  rw [render_eq_unlines, shape]
  have whole : splitLines document =
      front ++ beginMarker key :: (init ++ endMarker key :: after) := by simp [cut, shape]
  exact located_of_block whole inside noEnd

/-- Where the block of a fragment is found its lines stand, the last of which is the end marker. -/
theorem exists_cut_of_located (free : '\n' ∉ key)
    (isLocated : located document key = some (render key fragment)) :
    ∃ front inner after, blockLines key fragment = beginMarker key :: (inner ++ [endMarker key]) ∧
      splitLines document = front ++ (blockLines key fragment ++ after) := by
  obtain ⟨⟨first, last⟩, found, -⟩ := Option.map_eq_some_iff.1 isLocated
  obtain ⟨front, inner, after, cut, noBegin, noEnd, -, -⟩ := find_eq_some_iff.1 found
  have parts : splitLines document =
      front ++ (beginMarker key :: (inner ++ [endMarker key])) ++ after := by simp [cut]
  have ownFree : ∀ l ∈ beginMarker key :: (inner ++ [endMarker key]), '\n' ∉ l := fun l mem =>
    newline_notMem_of_mem_splitLines
      (parts ▸ List.mem_append_left _ (List.mem_append_right _ mem))
  rw [located_of_block cut noBegin noEnd, Option.some_inj, render_eq_unlines] at isLocated
  have same := congrArg splitLines isLocated
  rw [splitLines_unlines ownFree, splitLines_unlines (newline_notMem_blockLines free fragment)] at same
  have shape := (List.append_cancel_right same).symm
  exact ⟨front, inner, after, shape, by rw [parts, shape, List.append_assoc]⟩

/-- What is found is the block of a fragment only if the fragment is closed. -/
theorem closes_of_located (free : '\n' ∉ key)
    (isLocated : located document key = some (render key fragment)) : closes fragment = true := by
  obtain ⟨-, inner, -, shape, -⟩ := exists_cut_of_located free isLocated
  obtain ⟨init, line, split⟩ := exists_splitLines_eq_concat fragment
  rw [blockLines_eq free split] at shape
  have ends : line ++ endMarker key = endMarker key := by
    have lasts := congrArg List.getLast? shape
    rwa [← List.cons_append, ← List.cons_append, List.getLast?_concat, List.getLast?_concat,
      Option.some_inj] at lasts
  exact (closes_iff_last split).2 (List.self_eq_append_left.1 ends.symm)

/-- Where a block is found, an upsert leaves it as it is or puts its own in its place. -/
theorem exists_cut_of_found (free : '\n' ∉ key) {place : Nat × Nat}
    (found : find key (splitLines document) = some place) (fragment : List Char) :
    upsert document key fragment = .unchanged ∧
        located document key = some (render key fragment) ∨
      ∃ result before inner after rest, upsert document key fragment = .replaced result ∧
        splitLines document = before ++ beginMarker key :: (inner ++ endMarker key :: after) ∧
        endMarker key ∉ after ∧
        splitLines result = dropBlankLast before ++ (blockLines key fragment ++ rest) ∧
        ∀ line ∈ rest, line ≠ [] → line ∈ after := by
  obtain ⟨first, last⟩ := place
  by_cases same : joinLines (slice (splitLines document) first last) ++ ['\n'] = render key fragment
  · refine .inl ⟨by simp only [upsert, found, same, if_true], ?_⟩
    rw [located, found]
    exact congrArg some same
  · rcases upsert_keeps_lines free found fragment with unchanged | ⟨result, replaced, kept⟩
    · simp [upsert, found, same] at unchanged
    · obtain ⟨before, inner, after, cut, -, noEnd, rfl, rfl⟩ := find_eq_some_iff.1 found
      obtain ⟨inFront, behind, -⟩ := cut_of_block cut
      obtain ⟨init, line, split⟩ := exists_splitLines_eq_concat fragment
      have shape : blockLines key fragment = (beginMarker key :: init) ++ [line ++ endMarker key] :=
        blockLines_eq free split
      rw [inFront, behind, shape, List.append_assoc, ← List.append_assoc (dropBlankLast before),
        ← List.append_assoc] at kept
      obtain ⟨rest, lines, fewer⟩ := kept.exists_append (by simp [endMarker_ne_nil])
      refine .inr ⟨result, before, inner, after, rest, replaced, cut, noEnd, ?_, fewer⟩
      rw [lines, shape]
      simp

/-- A key without a block gets one at the end. -/
theorem upsert_of_absent (absent : find key (splitLines document) = none)
    (fragment : List Char) :
    upsert document key fragment = .appended (append document (render key fragment)) := by
  simp only [upsert, absent]

/-- The block that is to be there is there already. -/
theorem upsert_of_located (isLocated : located document key = some (render key fragment)) :
    upsert document key fragment = .unchanged := by
  obtain ⟨⟨first, last⟩, found, text⟩ := Option.map_eq_some_iff.1 isLocated
  dsimp only at text
  simp only [upsert, found, text, if_true]

/-- An upsert changes nothing only if the very block is there. -/
theorem located_of_unchanged {fragment : List Char}
    (unchanged : upsert document key fragment = .unchanged) :
    located document key = some (render key fragment) := by
  cases found : find key (splitLines document) with
  | none => simp [upsert, found] at unchanged
  | some place =>
    by_cases same : joinLines (slice (splitLines document) place.1 place.2) ++ ['\n'] =
        render key fragment
    · rw [located, found]
      exact congrArg some same
    · simp [upsert, found, same] at unchanged

/-! ## The lines of a block -/

/-- The lines of the block of a fragment stand in the document one behind another, whether or not the
block could be found there. -/
def HasLines (document key fragment : List Char) : Prop :=
  ∃ front after, splitLines document = front ++ (blockLines key fragment ++ after)

/-- A block that is found has its lines in the document. -/
theorem hasLines_of_located (free : '\n' ∉ key)
    (isLocated : located document key = some (render key fragment)) :
    HasLines document key fragment :=
  have ⟨front, _, after, _, cut⟩ := exists_cut_of_located free isLocated
  ⟨front, after, cut⟩

/-- A block that is put is there, whatever stood in the document. -/
theorem hasLines_edit_upsert (free : '\n' ∉ key) (document fragment : List Char) :
    HasLines ((Change.upsert key fragment).edit document).2 key fragment := by
  cases found : find key (splitLines document) with
  | none =>
    obtain ⟨front, cut, -⟩ := exists_front_of_append free document fragment
    simp only [Change.edit, upsert_of_absent found]
    exact ⟨front, [[]], cut⟩
  | some place =>
    rcases exists_cut_of_found free found fragment with
      ⟨unchanged, isLocated⟩ | ⟨result, before, inner, after, rest, replaced, -, -, lines, -⟩
    · simp only [Change.edit, unchanged]
      exact hasLines_of_located free isLocated
    · simp only [Change.edit, replaced]
      exact ⟨dropBlankLast before, rest, lines⟩

/-- After an upsert the begin marker of its key is in the document, whether or not the block is
found. -/
theorem beginMarker_mem_edit_upsert (free : '\n' ∉ key) (document fragment : List Char) :
    beginMarker key ∈ splitLines ((Change.upsert key fragment).edit document).2 := by
  obtain ⟨front, after, cut⟩ := hasLines_edit_upsert free document fragment
  have first : beginMarker key ∈ blockLines key fragment := List.mem_cons_self
  simp only [cut, List.mem_append, first, true_or, or_true]

/-! ## Closed blocks -/

/-- A closed block is found where it was put, whatever markers the document held. -/
theorem located_edit_upsert (free : '\n' ∉ key) (closed : closes fragment = true)
    (noBegin : beginMarker key ∉ splitLines fragment) (document : List Char) :
    located ((Change.upsert key fragment).edit document).2 key = some (render key fragment) := by
  cases found : find key (splitLines document) with
  | none =>
    obtain ⟨front, cut, -⟩ := exists_front_of_append free document fragment
    simp only [Change.edit, upsert_of_absent found]
    refine located_of_cut free closed noBegin cut fun mem => ?_
    exact endMarker_ne_nil key (List.mem_singleton.1 mem)
  | some place =>
    rcases exists_cut_of_found free found fragment with
      ⟨unchanged, isLocated⟩ | ⟨result, before, inner, after, rest, replaced, -, noEnd, cut, fewer⟩
    · simp only [Change.edit, unchanged]
      exact isLocated
    · simp only [Change.edit, replaced]
      exact located_of_cut free closed noBegin cut fun mem =>
        noEnd (fewer _ mem (endMarker_ne_nil key))

/-! ## Blocks that run into their end markers -/

/-- A block that runs into its end marker is not found, nor is another in its place. -/
theorem find_edit_upsert_of_open (free : '\n' ∉ key) (tame : Tame fragment)
    (runsOn : closes fragment = false) (sole : Sole key document) :
    find key (splitLines ((Change.upsert key fragment).edit document).2) = none := by
  have own : marks key (blockLines key fragment) = [beginMarker key] := by
    rw [marks_blockLines free tame, runsOn]
    simp [marks]
  by_contra isFound
  have both : ([beginMarker key] ++ [endMarker key]).Sublist _ := find_ne_none_iff.1 isFound
  have other : endMarker key ∉ [beginMarker key] := by
    simpa using (beginMarker_ne_endMarker key key).symm
  cases found : find key (splitLines document) with
  | none =>
    simp only [Change.edit, upsert_of_absent found] at both
    have inAll := both.trans (marks_append_render free document)
    rw [own] at inAll
    exact find_ne_none_iff.2 (sublist_of_concat_sublist_append inAll other) found
  | some place =>
    rcases exists_cut_of_found free found fragment with
      ⟨-, isLocated⟩ | ⟨result, before, inner, after, rest, replaced, cut, noEnd, lines, fewer⟩
    · rw [closes_of_located free isLocated] at runsOn
      cases runsOn
    · -- A block in front of the one replaced would have had a marker behind it.
      simp only [Change.edit, replaced] at both
      have noEnd' : endMarker key ∉ [beginMarker key] ++ marks key rest := by
        rw [List.mem_append, not_or]
        exact ⟨other, fun mem =>
          noEnd (fewer _ (List.mem_of_mem_filter mem) (endMarker_ne_nil key))⟩
      rw [lines, marks_append, marks_dropBlankLast, marks_append, own] at both
      have front := sublist_of_concat_sublist_append both noEnd'
      refine sole (beginMarker key) ?_
      rw [cut, marks_cut]
      refine (List.Sublist.append front ?_ : ([_] ++ [_] ++ [beginMarker key]).Sublist _)
      exact List.singleton_sublist.2 List.mem_cons_self

/-- A document without a block that could be found gets longer. -/
theorem length_lt_edit_upsert (absent : find key (splitLines document) = none)
    (mem : beginMarker key ∈ splitLines document) :
    document.length < ((Change.upsert key fragment).edit document).2.length := by
  have text : isPlaceholder document = false := by
    rw [Bool.eq_false_iff]
    intro placeholder
    have shows : '#' ∉ document := notMem_of_isPlaceholder placeholder (by decide) (by decide)
    have inMarker : '#' ∈ beginMarker key := List.mem_of_head? (beginMarker_head? key)
    have inWhole : '#' ∈ document ++ ['\n'] := by
      rw [append_newline]
      exact List.mem_flatMap.2 ⟨_, mem, List.mem_append_left _ inMarker⟩
    simp [shows] at inWhole
  have nonzero : 0 < (render key fragment).length := by
    rw [render, List.length_append, List.length_cons]
    omega
  simp only [Change.edit, upsert_of_absent absent, append, text, Bool.false_eq_true, if_false]
  split
  · rw [List.length_append, List.length_cons]
    omega
  · rw [List.length_append]
    omega

end StateMetrics.Block
