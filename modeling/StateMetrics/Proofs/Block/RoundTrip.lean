import StateMetrics.Proofs.Block.Placement

/-!
# What is put is found again, and can be taken back

A document may hold markers of the key that is edited besides those of its block. A closed block
that has no begin marker of its own key inside is found where it was put, among whatever markers
(`find_after_upsert`). A block that was put at the end and is taken out again leaves what was there
before it: the header, or the document with a final newline (`remove_after_append_iff`). The one
exception is a document with an empty line at its end, which is gone then, as an empty line in front
of a block always is.
-/

namespace StateMetrics.Block

open Text

variable {key fragment document : List Char}

/-! ## Finding again -/

/-- An upsert that changes nothing leaves the document as it is. -/
theorem edit_upsert_snd (document key fragment : List Char) :
    ((Change.upsert key fragment).edit document).2 =
      (upsert document key fragment).document?.getD document := by
  rw [Change.edit]
  split <;> simp only [*, Upsert.document?, Option.getD_some, Option.getD_none]

/-- After a closed block was put it is what the search finds, and to put it again changes nothing.
The document may hold any markers, and the fragment all but a begin marker of this key. -/
theorem find_after_upsert (free : '\n' ∉ key) (closed : closes fragment = true)
    (noBegin : beginMarker key ∉ splitLines fragment) (document : List Char) :
    let result := (upsert document key fragment).document?.getD document
    (∃ first last, find key (splitLines result) = some (first, last) ∧
      joinLines (slice (splitLines result) first last) ++ ['\n'] = render key fragment) ∧
    upsert result key fragment = .unchanged := by
  intro result
  have isLocated : located result key = some (render key fragment) := by
    have found := located_edit_upsert free closed noBegin document
    rwa [edit_upsert_snd] at found
  refine ⟨?_, upsert_of_located isLocated⟩
  obtain ⟨⟨first, last⟩, found, text⟩ := Option.map_eq_some_iff.1 isLocated
  exact ⟨first, last, found, text⟩

/-- A document with an end marker, a begin marker and no block, and a fragment with an end marker. -/
theorem find_after_upsert_among_markers :
    let document := unlines [endMarker ['k'], beginMarker ['k'], ['a']]
    let fragment := unlines [endMarker ['k'], beginMarker ['j']]
    closes fragment = true ∧ beginMarker ['k'] ∉ splitLines fragment ∧
      ∃ result, upsert document ['k'] fragment = .appended result ∧
        find ['k'] (splitLines result) = some (3, 6) ∧
        upsert result ['k'] fragment = .unchanged := by
  intro document fragment
  have closed : closes fragment = true := by decide +kernel
  have noBegin : beginMarker ['k'] ∉ splitLines fragment := by decide +kernel
  obtain ⟨-, again⟩ := find_after_upsert (by decide) closed noBegin document
  refine ⟨closed, noBegin, document ++ render ['k'] fragment, ?_, ?_, ?_⟩
  · decide +kernel
  · decide +kernel
  · have appended : upsert document ['k'] fragment =
        .appended (document ++ render ['k'] fragment) := by decide +kernel
    rwa [appended] at again

/-! ## Taking back -/

/-- What a block is put behind ends with a newline, in any case. -/
theorem append_eq (document block : List Char) : append document block =
    (if isPlaceholder document then header else withNewline document) ++ block := by
  have headerEnds : endsWithNewline header = true := by decide +kernel
  cases placeholder : isPlaceholder document with
  | true => simp [append, placeholder, headerEnds]
  | false =>
    have nonempty : document ≠ [] := by
      rintro rfl
      exact absurd placeholder (by decide)
    cases ends : endsWithNewline document <;> simp [append, withNewline, placeholder, ends, nonempty]

theorem dropBlankLast_ne_nil {lines : List (List Char)} (nonempty : lines ≠ []) :
    dropBlankLast lines ≠ [] := by
  rw [dropBlankLast]
  split
  · next blank =>
    have long := blank.1
    rw [← List.length_pos_iff, List.length_dropLast]
    omega
  · exact nonempty

/-- Whole lines with a closed block behind them lose the block, and with it an empty line in front of
it. -/
theorem remove_unlines_append {lines : List (List Char)} (free : '\n' ∉ key)
    (closed : closes fragment = true) (noBegin : beginMarker key ∉ splitLines fragment)
    (linesFree : ∀ line ∈ lines, '\n' ∉ line) (nonempty : lines ≠ []) :
    remove (unlines lines ++ render key fragment) key =
      some (unlines (dropBlankLast lines)) := by
  obtain ⟨init, last, split⟩ := exists_splitLines_eq_concat fragment
  obtain rfl : last = [] := (closes_iff_last split).1 closed
  have shape : blockLines key fragment = beginMarker key :: (init ++ [endMarker key]) :=
    blockLines_eq free split
  have inside : beginMarker key ∉ init := fun mem => noBegin (by simp [split, mem])
  have cut : splitLines (unlines lines ++ render key fragment) =
      lines ++ blockLines key fragment ++ [[]] := by
    rw [splitLines_unlines_append linesFree, render_eq_unlines,
      splitLines_unlines (newline_notMem_blockLines free fragment), List.append_assoc]
  have isFound : find key (splitLines (unlines lines ++ render key fragment)) =
      some (lines.length, lines.length + (blockLines key fragment).length - 1) := by
    have whole : lines ++ blockLines key fragment ++ [[]] =
        lines ++ beginMarker key :: (init ++ endMarker key :: [[]]) := by simp [shape]
    have noEnd : endMarker key ∉ [[]] := fun mem => endMarker_ne_nil key (List.mem_singleton.1 mem)
    rw [cut, whole, find_of_block inside noEnd, shape]
    simp [Nat.add_assoc]
  have kept : endsWithNewline (unlines (dropBlankLast lines)) = true :=
    endsWithNewline_unlines (dropBlankLast_ne_nil nonempty)
  rw [remove]
  simp only [isFound, Option.map_some]
  rw [splice_eq cut (by simp [shape]), closedLike]
  have empty : joinLines (trimEnd [[]]) = [] := by decide
  simp [empty, kept]

/-- A text ends with two newlines exactly if its lines, a final newline counted once, end with an
empty one behind others. -/
theorem two_newlines_suffix_iff {text : List Char} : ['\n', '\n'] <:+ text ↔
    ∃ init, init ≠ [] ∧ dropBlankLast (splitLines text) = init ++ [[]] := by
  constructor
  · rintro ⟨front, rfl⟩
    have lines : splitLines (front ++ ['\n', '\n']) = splitLines front ++ [[]] ++ [[]] := by
      have whole : front ++ ['\n', '\n'] = unlines (splitLines front ++ [[]]) := by
        rw [unlines_append, ← append_newline]
        simp
      have free : ∀ line ∈ splitLines front ++ [[]], '\n' ∉ line := by
        intro line mem
        rcases List.mem_append.1 mem with mem | mem
        · exact newline_notMem_of_mem_splitLines mem
        · rw [List.mem_singleton.1 mem]
          exact List.not_mem_nil
      rw [whole, splitLines_unlines free]
    refine ⟨splitLines front, splitLines_ne_nil front, ?_⟩
    rw [lines, dropBlankLast_concat_nil (by simp)]
  · rintro ⟨init, nonempty, lines⟩
    have whole : withNewline text = unlines init ++ ['\n'] := by
      have joined := withNewline_joinLines (splitLines_ne_nil text)
        fun _ => newline_notMem_of_mem_splitLines
      rwa [joinLines_splitLines, lines, unlines_append] at joined
    obtain ⟨front, last, rfl⟩ := (List.eq_nil_or_concat' init).resolve_left nonempty
    cases ends : endsWithNewline text with
    | true =>
      rw [withNewline, if_pos ends] at whole
      exact ⟨unlines front ++ last, by simp [whole]⟩
    | false =>
      -- The newline put behind the text is the only one at its end.
      rw [withNewline, if_neg (by simp [ends])] at whole
      rw [List.append_cancel_right whole, endsWithNewline_unlines (by simp)] at ends
      cases ends

/-- What is left of a document when a block was put at its end and taken out again: the header of a
placeholder; otherwise the document with a final newline, exactly unless it ends with two newlines.
Then one of these is lost. -/
theorem remove_after_append_iff (free : '\n' ∉ key) (closed : closes fragment = true)
    (noBegin : beginMarker key ∉ splitLines fragment)
    (absent : find key (splitLines document) = none) :
    ∃ result, upsert document key fragment = .appended result ∧
      (isPlaceholder document = true → remove result key = some header) ∧
      (isPlaceholder document = false →
        (remove result key = some (withNewline document) ↔ ¬ ['\n', '\n'] <:+ document) ∧
        (['\n', '\n'] <:+ document → remove result key = some document.dropLast)) := by
  refine ⟨_, upsert_of_absent absent fragment, fun placeholder => ?_, fun text => ?_⟩
  · have left : unlines (dropBlankLast headerLines) = header := by decide +kernel
    rw [append_eq, if_pos placeholder, header_eq_unlines,
      remove_unlines_append free closed noBegin (by decide +kernel) (by decide), left]
    exact congrArg some header_eq_unlines
  · have whole : withNewline document = unlines (dropBlankLast (splitLines document)) := by
      rw [← withNewline_joinLines (splitLines_ne_nil document)
        fun _ => newline_notMem_of_mem_splitLines, joinLines_splitLines]
    have removed : remove (append document (render key fragment)) key =
        some (unlines (dropBlankLast (dropBlankLast (splitLines document)))) := by
      rw [append_eq, if_neg (by simp [text]), whole]
      exact remove_unlines_append free closed noBegin
        (fun line mem => newline_notMem_of_mem_splitLines (dropBlankLast_subset _ mem))
        (dropBlankLast_ne_nil (splitLines_ne_nil document))
    by_cases blank : ['\n', '\n'] <:+ document
    · obtain ⟨init, nonempty, lines⟩ := two_newlines_suffix_iff.1 blank
      obtain ⟨front, rfl⟩ := blank
      have ends : withNewline (front ++ ['\n', '\n']) = front ++ ['\n', '\n'] :=
        if_pos (by simp [endsWithNewline])
      have left : unlines init = (front ++ ['\n', '\n']).dropLast := by
        rw [← ends, whole, lines]
        simp
      rw [lines, dropBlankLast_concat_nil nonempty, left] at removed
      refine ⟨iff_of_false (fun same => ?_) (not_not_intro ⟨front, rfl⟩), fun _ => removed⟩
      rw [removed, ends, Option.some_inj] at same
      have lengths := congrArg List.length same
      simp at lengths
    · have kept : dropBlankLast (dropBlankLast (splitLines document)) =
          dropBlankLast (splitLines document) := by
        rw [dropBlankLast]
        refine if_neg ?_
        rintro ⟨long, last⟩
        obtain ⟨init, lines⟩ := List.getLast?_eq_some_iff.1 last
        refine blank (two_newlines_suffix_iff.2 ⟨init, ?_, lines⟩)
        rintro rfl
        simp [lines] at long
      rw [kept, ← whole] at removed
      exact ⟨iff_of_true removed blank, fun ends => absurd ends blank⟩

/-- A document that ends in the midst of a line, with a begin marker that has no end marker. -/
theorem remove_after_append_of_dangling :
    let document := "a\n# BEGIN CustomResourceStateMetrics k".toList
    closes ['x', '\n'] = true ∧ beginMarker ['k'] ∉ splitLines ['x', '\n'] ∧
      find ['k'] (splitLines document) = none ∧
      ∃ result, upsert document ['k'] ['x', '\n'] = .appended result ∧
        remove result ['k'] = some (document ++ ['\n']) := by
  intro document
  have closed : closes ['x', '\n'] = true := by decide
  have noBegin : beginMarker ['k'] ∉ splitLines ['x', '\n'] := by decide +kernel
  have absent : find ['k'] (splitLines document) = none := by decide +kernel
  obtain ⟨result, appended, -, text⟩ :=
    remove_after_append_iff (by decide) closed noBegin absent
  have single : ¬ ['\n', '\n'] <:+ document := by decide +kernel
  have ends : withNewline document = document ++ ['\n'] := by decide +kernel
  refine ⟨closed, noBegin, absent, result, appended, ?_⟩
  rw [← ends]
  exact (text (by decide +kernel)).1.2 single

/-- The empty line at the end of a document does not outlast a block behind it. -/
theorem remove_after_append_behind_blank :
    let document := ['a', '\n', '\n']
    let result := document ++ render ['k'] ['x', '\n']
    find ['k'] (splitLines document) = none ∧ isPlaceholder document = false ∧
      upsert document ['k'] ['x', '\n'] = .appended result ∧
      remove result ['k'] = some ['a', '\n'] ∧
      remove result ['k'] ≠ some (withNewline document) := by
  decide +kernel

end StateMetrics.Block
