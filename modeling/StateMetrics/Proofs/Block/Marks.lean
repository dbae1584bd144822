import StateMetrics.Proofs.Block.OrderedMap

/-!
# The markers of a key

A document may hold any text besides blocks, a marker that lost its partner among it. Of such a text
it counts only in what order the markers of a key stand. A change at one key brings no markers of
another into the document, and at its own key it leaves no marker behind a block (`Sole`): so the
block that is taken out was the only one.
-/

namespace StateMetrics.Block

open Text

/-- The markers of a key among lines. -/
def marks (key : List Char) (lines : List (List Char)) : List (List Char) :=
  lines.filter fun line => line = beginMarker key ∨ line = endMarker key

/-- Behind a block of the key stands no other marker of the key. -/
def Sole (key document : List Char) : Prop :=
  ∀ line, ¬ [beginMarker key, endMarker key, line].Sublist (marks key (splitLines document))

section Marks

variable {key other : List Char} {lines before inner after : List (List Char)}

theorem marks_append (a b : List (List Char)) : marks key (a ++ b) = marks key a ++ marks key b :=
  List.filter_append ..

theorem marks_eq_nil (plain : ∀ line ∈ lines, ¬ IsMarker line) : marks key lines = [] := by
  refine List.filter_eq_nil_iff.2 fun line mem => ?_
  rw [decide_eq_true_eq]
  exact fun isMark => plain line mem ⟨key, isMark⟩

/-- The two markers of a block are among those of the document that holds it. -/
theorem marks_cut : marks key (before ++ beginMarker key :: (inner ++ endMarker key :: after)) =
    marks key before ++ beginMarker key :: (marks key inner ++ endMarker key :: marks key after) := by
  simp [marks, List.filter_append]

theorem marks_concat_nil (lines : List (List Char)) :
    marks key (lines ++ [[]]) = marks key lines := by
  have blank : marks key [[]] = [] := by
    simp [marks, (beginMarker_ne_nil key).symm, (endMarker_ne_nil key).symm]
  rw [marks_append, blank, List.append_nil]

theorem marks_trimEnd (lines : List (List Char)) : marks key (trimEnd lines) = marks key lines := by
  induction lines using List.reverseRecOn with
  | nil => rfl
  | append_singleton init last ih =>
    by_cases blank : last = []
    · rw [blank, trimEnd_concat_nil, ih, marks_concat_nil]
    · rw [trimEnd_concat blank]

/-- Texts with the same lines, but for empty ones at the end, have the same markers. -/
theorem marks_of_sameLines {a b : List (List Char)} (same : SameLines a b) :
    marks key a = marks key b := by
  rw [← marks_trimEnd a, ← marks_trimEnd b, show trimEnd a = trimEnd b from same]

theorem marks_dropBlankLast (lines : List (List Char)) :
    marks key (dropBlankLast lines) = marks key lines := by
  unfold dropBlankLast
  split
  · next blank =>
    obtain ⟨init, rfl⟩ := List.getLast?_eq_some_iff.1 blank.2
    rw [List.dropLast_concat, marks_concat_nil]
  · rfl

/-- A sublist whose last member is not in the back part is one of the front part. -/
theorem sublist_of_concat_sublist_append {α : Type} {init front back : List α} {last : α}
    (whole : (init ++ [last]).Sublist (front ++ back)) (absent : last ∉ back) :
    (init ++ [last]).Sublist front := by
  obtain ⟨a, b, split, inFront, behind⟩ := List.sublist_append_iff.1 whole
  rcases List.eq_nil_or_concat' b with rfl | ⟨b, final, rfl⟩
  · rwa [split, List.append_nil]
  · have same : last = final := by
      have lasts := congrArg List.getLast? split
      simpa using lasts
    exact absurd (same ▸ behind.subset (by simp)) absent

/-- A block is found exactly where an end marker stands behind a begin marker. -/
theorem find_ne_none_iff :
    find key lines ≠ none ↔ [beginMarker key, endMarker key].Sublist (marks key lines) := by
  constructor
  · intro found
    obtain ⟨⟨first, last⟩, found⟩ := Option.ne_none_iff_exists'.1 found
    obtain ⟨before, inner, after, rfl, -⟩ := find_eq_some_iff.1 found
    rw [marks_cut]
    refine List.Sublist.trans (List.Sublist.cons_cons _ ?_) (List.sublist_append_right _ _)
    exact List.singleton_sublist.2 (by simp)
  · intro both absent
    have inLines := both.trans List.filter_sublist
    have closed : endMarker key ∈ lines := inLines.subset (by simp)
    obtain ⟨front, after, rfl, noEnd⟩ := exists_append_cons_of_mem closed
    by_cases opened : beginMarker key ∈ front
    · obtain ⟨before, inner, rfl, noBegin⟩ := exists_append_cons_of_mem opened
      rw [List.append_assoc, List.cons_append, find_of_block noBegin noEnd] at absent
      cases absent
    · -- The begin marker would stand behind the last end marker.
      obtain ⟨a, b, whole, inFront, behind⟩ := List.sublist_append_iff.1 inLines
      cases a with
      | cons line a =>
        obtain ⟨rfl, -⟩ := List.cons.inj whole
        exact opened (inFront.subset List.mem_cons_self)
      | nil =>
        obtain rfl : _ = b := whole
        have later := List.Sublist.of_cons_of_ne (beginMarker_ne_endMarker key key) behind
        exact noEnd (later.subset (by simp))

/-- With fewer markers there is no block where there was none. -/
theorem find_eq_none_of_marks {lines' : List (List Char)}
    (fewer : (marks key lines').Sublist (marks key lines)) (absent : find key lines = none) :
    find key lines' = none := by
  by_contra found
  exact find_ne_none_iff.2 ((find_ne_none_iff.1 found).trans fewer) absent

/-- Where no block of the key is found, nothing stands behind one. -/
theorem sole_of_find_eq_none {document : List Char}
    (absent : find key (splitLines document) = none) : Sole key document := by
  intro line behind
  have both : [beginMarker key, endMarker key].Sublist [beginMarker key, endMarker key, line] := by
    simp
  exact find_ne_none_iff.2 (both.trans behind) absent

/-- A document with each marker of the key at most once. -/
theorem sole_of_count_le_one {document : List Char}
    (once : ∀ line ∈ [beginMarker key, endMarker key],
      (splitLines document).count line ≤ 1) : Sole key document := by
  intro line behind
  have isMarker : line ∈ [beginMarker key, endMarker key] := by
    have mem : line ∈ marks key (splitLines document) := behind.subset (by simp)
    simpa [marks] using (List.mem_filter.1 mem).2
  have twice : 2 ≤ [beginMarker key, endMarker key, line].count line := by
    rcases List.mem_pair.1 isMarker with rfl | rfl
    · rw [List.count_cons_self, List.count_cons, List.count_singleton_self]
      omega
    · rw [List.count_cons, List.count_cons_self, List.count_singleton_self]
      omega
  have all : (marks key (splitLines document)).count line ≤ (splitLines document).count line :=
    List.filter_sublist.count_le line
  exact absurd (twice.trans ((behind.count_le line).trans (all.trans (once line isMarker))))
    (by decide)

/-- A text is located exactly where a block is found. -/
theorem located_eq_none_iff {document : List Char} :
    located document key = none ↔ find key (splitLines document) = none :=
  Option.map_eq_none_iff

end Marks

/-! ## The markers of a block -/

section BlockLines

variable {key other fragment : List Char}

theorem marks_singleton_of_not_isMarker {line : List Char} (plain : ¬ IsMarker line) :
    marks key [line] = [] :=
  marks_eq_nil fun _ mem => List.mem_singleton.1 mem ▸ plain

theorem beginMarker_injective : Function.Injective beginMarker := fun _ _ same =>
  List.append_cancel_left same

theorem marks_beginMarker_of_ne (differ : key ≠ other) : marks other [beginMarker key] = [] := by
  have apart : beginMarker key ≠ beginMarker other := fun same =>
    differ (beginMarker_injective same)
  simp [marks, apart, beginMarker_ne_endMarker]

theorem marks_endMarker_of_ne (differ : key ≠ other) : marks other [endMarker key] = [] := by
  have apart : endMarker key ≠ endMarker other := fun same => differ (endMarker_injective same)
  simp [marks, apart, (beginMarker_ne_endMarker other key).symm]

/-- A block has its two markers, or only the first if its fragment runs into the other. -/
theorem marks_blockLines (free : '\n' ∉ key) (tame : Tame fragment) :
    marks other (blockLines key fragment) =
      marks other [beginMarker key] ++ if closes fragment then marks other [endMarker key] else [] := by
  obtain ⟨init, last, split⟩ := exists_splitLines_eq_concat fragment
  obtain ⟨plain, open'⟩ := tame init last split
  rw [blockLines_eq free split, ← List.singleton_append, marks_append, marks_append,
    marks_eq_nil plain, List.nil_append]
  rcases eq_or_ne last [] with empty | filled
  · rw [if_pos ((closes_iff_last split).2 empty), empty, List.nil_append]
  · have unclosed : ¬ closes fragment = true := fun closed =>
      filled ((closes_iff_last split).1 closed)
    rw [if_neg unclosed, marks_singleton_of_not_isMarker (open' filled key)]

/-- A block has no markers of another key. -/
theorem marks_blockLines_of_ne (free : '\n' ∉ key) (tame : Tame fragment) (differ : key ≠ other) :
    marks other (blockLines key fragment) = [] := by
  rw [marks_blockLines free tame, marks_beginMarker_of_ne differ, marks_endMarker_of_ne differ]
  split <;> rfl

/-- Of its own key a block has at most one marker of either kind, in this order. -/
theorem marks_blockLines_self (free : '\n' ∉ key) (tame : Tame fragment) :
    (marks key (blockLines key fragment)).Sublist [beginMarker key, endMarker key] := by
  have first : marks key [beginMarker key] = [beginMarker key] := by simp [marks]
  have last : marks key [endMarker key] = [endMarker key] := by simp [marks]
  rw [marks_blockLines free tame, first, last]
  split
  · exact List.Sublist.refl _
  · simp

theorem marks_headerLines : marks key headerLines = [] :=
  marks_eq_nil fun _ mem => not_isMarker_of_mem_headerLines mem

/-- The lines of a text with a block put behind it on lines of its own: the block comes last, and in
front of it stand the lines of the text. -/
theorem exists_front_of_base (free : '\n' ∉ key) (base fragment : List Char) :
    ∃ front, splitLines (if base ≠ [] && !endsWithNewline base
        then base ++ '\n' :: render key fragment else base ++ render key fragment) =
          front ++ (blockLines key fragment ++ [[]]) ∧
      SameLines front (splitLines base) := by
  have linesFree := newline_notMem_blockLines free fragment
  have free' (text : List Char) : ∀ line ∈ splitLines text, '\n' ∉ line := fun _ =>
    newline_notMem_of_mem_splitLines
  rw [render_eq_unlines]
  split
  · -- The last line of the text gets the newline that it lacks.
    refine ⟨splitLines base, ?_, rfl⟩
    rw [List.append_cons, append_newline, splitLines_unlines_append (free' base),
      splitLines_unlines linesFree]
  · next atLine =>
    rcases List.eq_nil_or_concat' base with rfl | ⟨init, c, rfl⟩
    · exact ⟨[], by rw [List.nil_append, splitLines_unlines linesFree, List.nil_append], by decide⟩
    · obtain rfl : c = '\n' := by simpa [endsWithNewline] using atLine
      refine ⟨splitLines init, ?_, ?_⟩
      · rw [append_newline, splitLines_unlines_append (free' init), splitLines_unlines linesFree]
      · rw [append_newline, splitLines_unlines (free' init), SameLines, trimEnd_concat_nil]

/-- The lines of a document with a block put behind it: the block comes last, and what stands in
front of it has no other markers than the document. -/
theorem exists_front_of_append (free : '\n' ∉ key) (document fragment : List Char) :
    ∃ front, splitLines (append document (render key fragment)) =
        front ++ (blockLines key fragment ++ [[]]) ∧
      ∀ other, (marks other front).Sublist (marks other (splitLines document)) := by
  obtain ⟨front, cut, same⟩ :=
    exists_front_of_base free (if isPlaceholder document then header else document) fragment
  refine ⟨front, cut, fun other => ?_⟩
  rw [marks_of_sameLines same]
  split
  · have header : marks other (splitLines header) = [] := by
      rw [header_eq_unlines, splitLines_unlines (by decide +kernel), marks_concat_nil,
        marks_headerLines]
    rw [header]
    exact List.nil_sublist _
  · exact List.Sublist.refl _

/-- A document with a block put behind it has no markers but its own and those of the block. -/
theorem marks_append_render (free : '\n' ∉ key) (document : List Char) :
    (marks other (splitLines (append document (render key fragment)))).Sublist
      (marks other (splitLines document) ++ marks other (blockLines key fragment)) := by
  obtain ⟨front, cut, fewer⟩ := exists_front_of_append free document fragment
  rw [cut, marks_append, marks_concat_nil]
  exact (fewer other).append_right _

end BlockLines

/-! ## One change -/

section Edit

variable {change : Change} {document key : List Char}

/-- The lines that a change puts into a document. -/
def Change.lines : Change → List (List Char)
  | upsert key fragment => blockLines key fragment
  | remove _ => []

/-- A change puts no markers of another key into a document. -/
theorem Change.marks_lines_of_ne (sound : change.Sound) (differ : change.key ≠ key) :
    marks key change.lines = [] := by
  cases change with
  | upsert other fragment => exact marks_blockLines_of_ne sound.1 sound.2 differ
  | remove other => rfl

theorem Change.marks_lines_of_removes (removes : change.isUpsert = false) :
    marks key change.lines = [] := by
  cases change with
  | upsert => cases removes
  | remove => rfl

/-- Of its own key a change puts in at most one marker of either kind. -/
theorem Change.marks_lines_self (sound : change.Sound) :
    (marks change.key change.lines).Sublist
      [beginMarker change.key, endMarker change.key] := by
  cases change with
  | upsert other fragment => exact marks_blockLines_self sound.1 sound.2
  | remove other => exact List.nil_sublist _

/-- What a change does to a document: nothing; or the lines of the block that was found give way to
those of the change; or these come last, where no block was found. -/
inductive Change.Edits (change : Change) (document : List Char) : List Char → Prop
  | kept : (change.isUpsert = false → find change.key (splitLines document) = none) →
    Edits change document document
  | replaced {before inner after : List (List Char)} {document' : List Char} :
    splitLines document =
      before ++ beginMarker change.key :: (inner ++ endMarker change.key :: after) →
    endMarker change.key ∉ after →
    (∀ key, marks key (splitLines document') =
      marks key before ++ (marks key change.lines ++ marks key after)) →
    Edits change document document'
  | appended {document' : List Char} :
    find change.key (splitLines document) = none →
    (∀ key, (marks key (splitLines document')).Sublist
      (marks key (splitLines document) ++ marks key change.lines)) →
    Edits change document document'

/-- Lines that are those around the block that was found, with others in between. -/
theorem Change.edits_of_found (change : Change) {first last : Nat} {document' : List Char}
    (found : find change.key (splitLines document) = some (first, last))
    (kept : SameLines (splitLines document') (dropBlankLast ((splitLines document).take first) ++
      (change.lines ++ (splitLines document).drop (last + 1)))) :
    change.Edits document document' := by
  obtain ⟨before, inner, after, cut, -, noEnd, rfl, rfl⟩ := find_eq_some_iff.1 found
  obtain ⟨front, back, -⟩ := cut_of_block cut
  rw [front, back] at kept
  refine .replaced cut noEnd fun key => ?_
  rw [marks_of_sameLines kept, marks_append, marks_append, marks_dropBlankLast]

/-- An upsert and a removal do one of the three things that `Edits` lists. -/
theorem Change.edits (sound : change.Sound) (document : List Char) :
    change.Edits document (change.edit document).2 := by
  cases change with
  | upsert key fragment =>
    cases found : find key (splitLines document) with
    | none =>
      have appended : Block.upsert document key fragment =
          .appended (append document (render key fragment)) := by simp only [Block.upsert, found]
      simp only [Change.edit, appended]
      exact .appended found fun other => marks_append_render sound.1 document
    | some place =>
      rcases upsert_keeps_lines sound.1 found fragment with unchanged | ⟨result, replaced, kept⟩
      · simp only [Change.edit, unchanged]
        exact .kept fun removes => Bool.noConfusion removes
      · simp only [Change.edit, replaced]
        exact edits_of_found (.upsert key fragment) found kept
  | remove key =>
    cases found : find key (splitLines document) with
    | none =>
      have absent : Block.remove document key = none := by
        simp only [Block.remove, found, Option.map_none]
      simp only [Change.edit, absent]
      exact .kept fun _ => found
    | some place =>
      obtain ⟨result, removed, kept⟩ := remove_keeps_lines found
      simp only [Change.edit, removed]
      exact edits_of_found (.remove key) found kept

namespace Change.Edits

variable {document' : List Char}

/-- A change brings no markers of another key into a document. -/
theorem marks_of_ne (edits : change.Edits document document') (sound : change.Sound)
    (differ : change.key ≠ key) :
    (marks key (splitLines document')).Sublist (marks key (splitLines document)) := by
  have inserted := marks_lines_of_ne sound differ
  cases edits with
  | kept => exact List.Sublist.refl _
  | @replaced before inner after document' cut noEnd shape =>
    have whole : splitLines document =
        before ++ ((beginMarker change.key :: (inner ++ [endMarker change.key])) ++ after) := by
      rw [cut]
      simp
    rw [shape key, inserted, List.nil_append, whole, marks_append, marks_append]
    exact List.Sublist.append_left (List.sublist_append_right _ _) _
  | appended absent shape =>
    have all := shape key
    rwa [inserted, List.append_nil] at all

theorem sole_of_ne (edits : change.Edits document document') (sound : change.Sound)
    (differ : change.key ≠ key) (sole : Sole key document) : Sole key document' :=
  fun line behind => sole line (behind.trans (edits.marks_of_ne sound differ))

/-- A change of another key makes no block of this one. -/
theorem find_of_ne (edits : change.Edits document document') (sound : change.Sound)
    (differ : change.key ≠ key) (absent : find key (splitLines document) = none) :
    find key (splitLines document') = none :=
  find_eq_none_of_marks (edits.marks_of_ne sound differ) absent

/-- What is put in place of the only block is the only block; behind no block it is, too. -/
theorem sole_self (edits : change.Edits document document') (sound : change.Sound)
    (sole : Sole change.key document) : Sole change.key document' := by
  have inserted := marks_lines_self sound
  cases edits with
  | kept => exact sole
  | @replaced before inner after document' cut noEnd shape =>
    intro line behind
    refine sole line (behind.trans ?_)
    rw [shape, cut, marks_cut]
    refine List.Sublist.append_left ?_ _
    have pair : (marks change.key change.lines).Sublist
        (beginMarker change.key :: (marks change.key inner ++ [endMarker change.key])) :=
      inserted.trans (List.Sublist.cons_cons _ (List.sublist_append_right _ _))
    simpa using pair.append_right (marks change.key after)
  | appended absent shape =>
    intro line behind
    -- Two of three markers would stand in the document before, a block of the key.
    obtain ⟨a, b, whole, front, back⟩ :=
      List.sublist_append_iff.1 (behind.trans ((shape _).trans (inserted.append_left _)))
    have before : ¬ [beginMarker change.key, endMarker change.key].Sublist a := fun both =>
      find_ne_none_iff.2 (both.trans front) absent
    rcases a with _ | ⟨first, _ | ⟨second, a⟩⟩
    · obtain rfl : _ = b := whole
      simpa using back.length_le
    · obtain ⟨rfl, rfl⟩ := List.cons.inj whole
      have same := back.eq_of_length (by simp)
      exact beginMarker_ne_endMarker _ _ (List.cons.inj same).1.symm
    · obtain ⟨rfl, rest⟩ := List.cons.inj whole
      obtain ⟨rfl, -⟩ := List.cons.inj rest
      exact before (by simp)

/-- No change, of whatever key, puts a marker behind a block of the key. -/
theorem sole (edits : change.Edits document document') (sound : change.Sound)
    (sole : Sole key document) : Sole key document' := by
  by_cases own : change.key = key
  · subst own
    exact edits.sole_self sound sole
  · exact edits.sole_of_ne sound own sole

/-- No other block shows where the only one is taken out. -/
theorem find_self_of_removes (edits : change.Edits document document')
    (removes : change.isUpsert = false) (sole : Sole change.key document) :
    find change.key (splitLines document') = none := by
  cases edits with
  | kept absent => exact absent removes
  | @replaced before inner after document' cut noEnd shape =>
    have noEnd' : endMarker change.key ∉ marks change.key after := fun mem =>
      noEnd (List.mem_of_mem_filter mem)
    by_contra found
    have both := find_ne_none_iff.1 found
    rw [shape, marks_lines_of_removes removes, List.nil_append] at both
    -- A block in front of the one taken out had its end marker behind it.
    have front := sublist_of_concat_sublist_append (show ([_] ++ [_]).Sublist _ from both) noEnd'
    refine sole (endMarker change.key) ?_
    rw [cut, marks_cut]
    refine (List.Sublist.append front ?_ : ([_, _] ++ [endMarker change.key]).Sublist _)
    exact List.singleton_sublist.2 (by simp)
  | appended absent shape =>
    have all := shape change.key
    rw [marks_lines_of_removes removes, List.append_nil] at all
    exact find_eq_none_of_marks all absent

end Change.Edits

end Edit

end StateMetrics.Block
