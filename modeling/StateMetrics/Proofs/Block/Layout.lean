import StateMetrics.Proofs.Block.Splice

/-!
# Documents made of blocks

A document that was only ever written block by block is the header with the blocks of some entries
behind it. An entry is *closed* when its end marker stands on a line of its own; only then is its
block found. `find_documentOf` says which lines are found in such a document, given that no line of
a fragment can be mistaken for a marker (`Tame`).
-/

namespace StateMetrics.Block

open Text

/-! ## Fragments -/

/-- The line is a marker of some key. -/
def IsMarker (line : List Char) : Prop := ∃ key, line = beginMarker key ∨ line = endMarker key

theorem isMarker_beginMarker (key : List Char) : IsMarker (beginMarker key) := ⟨key, .inl rfl⟩

theorem isMarker_endMarker (key : List Char) : IsMarker (endMarker key) := ⟨key, .inr rfl⟩

theorem IsMarker.head? {line : List Char} (marker : IsMarker line) : line.head? = some '#' := by
  obtain ⟨key, rfl | rfl⟩ := marker
  · exact beginMarker_head? key
  · exact endMarker_head? key

/-- What follows the fragment starts on a line of its own. -/
def closes (fragment : List Char) : Bool := fragment = [] || endsWithNewline fragment

/-- A fragment closes exactly if the last of its lines is empty. -/
theorem closes_iff_last {fragment last : List Char} {init : List (List Char)}
    (split : splitLines fragment = init ++ [last]) : closes fragment = true ↔ last = [] := by
  have free : '\n' ∉ last :=
    newline_notMem_of_mem_splitLines (show last ∈ splitLines fragment by simp [split])
  have shape : fragment = joinLines (init ++ [last]) := by rw [← split, joinLines_splitLines]
  rw [closes, shape, endsWithNewline_joinLines_concat free, joinLines_concat]
  by_cases empty : init = []
  · simp [empty]
  · simp [empty, unlines_eq_nil]

/-- No line of the fragment can be mistaken for a marker, and if the fragment runs into its end
marker, neither can the line that this makes. -/
def Tame (fragment : List Char) : Prop :=
  ∀ init last, splitLines fragment = init ++ [last] →
    (∀ line ∈ init, ¬ IsMarker line) ∧ (last ≠ [] → ∀ key, ¬ IsMarker (last ++ endMarker key))

/-- A fragment that closes runs into nothing, so it is enough that none of its lines is a marker. -/
theorem tame_of_closes {fragment : List Char} (closed : closes fragment = true)
    (plain : ∀ line ∈ splitLines fragment, ¬ IsMarker line) : Tame fragment := by
  intro init last split
  refine ⟨fun line mem => plain line (by simp [split, mem]), fun shows => ?_⟩
  exact absurd ((closes_iff_last split).1 closed) shows

/-- The last line of the fragment and the end marker are one line. -/
theorem blockLines_eq {key fragment last : List Char} {init : List (List Char)} (free : '\n' ∉ key)
    (split : splitLines fragment = init ++ [last]) :
    blockLines key fragment = beginMarker key :: (init ++ [last ++ endMarker key]) := by
  have lastFree : '\n' ∉ last ++ endMarker key := by
    rw [List.mem_append, not_or]
    exact ⟨newline_notMem_of_mem_splitLines (show last ∈ splitLines fragment by simp [split]),
      newline_notMem_endMarker free⟩
  rw [blockLines, splitLines_append_of_splitLines_eq split, splitLines_of_newline_notMem lastFree]

/-- No empty line stands at the end of a block, so a splice behind it loses none. -/
theorem getLast?_blockLines_ne {key : List Char} (free : '\n' ∉ key) (fragment : List Char) :
    (blockLines key fragment).getLast? ≠ some [] := by
  obtain ⟨init, last, split⟩ := exists_splitLines_eq_concat fragment
  rw [blockLines_eq free split, ← List.cons_append, List.getLast?_concat]
  simp [endMarker_ne_nil]

/-- The text of a block tells its fragment. -/
theorem render_injective (key : List Char) : Function.Injective (render key) := fun f g same => by
  simpa [render] using same

/-! ## Entries -/

/-- A key and the fragment that was written for it. -/
structure Entry where
  key : List Char
  fragment : List Char
  deriving DecidableEq, Repr

namespace Entry

/-- The text of the entry's block. -/
def text (e : Entry) : List Char := render e.key e.fragment

/-- The lines of the entry's block. -/
def lines (e : Entry) : List (List Char) := blockLines e.key e.fragment

/-- The entry is what the search for `key` can find. -/
def isFoundBy (key : List Char) (e : Entry) : Bool := e.key = key && closes e.fragment

/-- The entry has a key without newlines and a fragment that is tame. -/
structure Sound (e : Entry) : Prop where
  free : '\n' ∉ e.key
  tame : Tame e.fragment

/-- The block of an entry that the search finds has its markers on lines of their own, and none in
between. -/
theorem lines_eq_of_isFoundBy {e : Entry} {key : List Char} (sound : e.Sound)
    (isFound : e.isFoundBy key = true) :
    ∃ inner, e.lines = beginMarker key :: (inner ++ [endMarker key]) ∧
      ∀ line ∈ inner, ¬ IsMarker line := by
  simp only [isFoundBy, Bool.and_eq_true, decide_eq_true_eq] at isFound
  obtain ⟨rfl, closed⟩ := isFound
  obtain ⟨init, last, split⟩ := exists_splitLines_eq_concat e.fragment
  obtain rfl : last = [] := (closes_iff_last split).1 closed
  exact ⟨init, blockLines_eq sound.free split, (sound.tame init [] split).1⟩

/-- Only the block of an entry that the search finds holds the end marker. -/
theorem isFoundBy_of_endMarker_mem {e : Entry} {key : List Char} (sound : e.Sound)
    (mem : endMarker key ∈ e.lines) : e.isFoundBy key = true := by
  obtain ⟨init, last, split⟩ := exists_splitLines_eq_concat e.fragment
  obtain ⟨plain, open'⟩ := sound.tame init last split
  rw [lines, blockLines_eq sound.free split, List.mem_cons, List.mem_append,
    List.mem_singleton] at mem
  rcases mem with same | inside | same
  · exact absurd same.symm (beginMarker_ne_endMarker _ _)
  · exact absurd (isMarker_endMarker key) (plain _ inside)
  · rcases eq_or_ne last [] with rfl | filled
    · have sameKey : e.key = key := (endMarker_injective same).symm
      simp [isFoundBy, sameKey, (closes_iff_last split).2 rfl]
    · exact absurd (same ▸ isMarker_endMarker key) (open' filled e.key)

end Entry

/-! ## Layout -/

/-- The text of the block of `key` that a document holds, if it holds one. -/
def located (document key : List Char) : Option (List Char) :=
  (find key (splitLines document)).map fun (first, last) =>
    joinLines (slice (splitLines document) first last) ++ ['\n']

/-- The lines of the header. -/
def headerLines : List (List Char) :=
  ["kind: CustomResourceStateMetrics".toList, "spec:".toList, "  resources:".toList]

theorem header_eq_unlines : header = unlines headerLines := by decide +kernel

theorem not_isMarker_of_mem_headerLines {line : List Char} (mem : line ∈ headerLines) :
    ¬ IsMarker line := by
  have plain : ∀ line ∈ headerLines, line.head? ≠ some '#' := by decide +kernel
  exact fun marker => plain line mem marker.head?

/-- The document that holds the blocks of some entries. -/
def documentOf (entries : List Entry) : List Char := header ++ entries.flatMap Entry.text

/-- The lines of the document that holds the blocks of some entries. -/
def linesOf (entries : List Entry) : List (List Char) := headerLines ++ entries.flatMap Entry.lines

theorem documentOf_eq_unlines (entries : List Entry) :
    documentOf entries = unlines (linesOf entries) := by
  have blocks : entries.flatMap Entry.text = unlines (entries.flatMap Entry.lines) := by
    induction entries with
    | nil => rfl
    | cons e entries ih =>
      rw [List.flatMap_cons, List.flatMap_cons, unlines_append, ih, Entry.text, render_eq_unlines]
      rfl
  rw [documentOf, linesOf, unlines_append, blocks, header_eq_unlines]

@[simp] theorem documentOf_nil : documentOf [] = header := List.append_nil _

theorem documentOf_concat (entries : List Entry) (e : Entry) :
    documentOf (entries ++ [e]) = documentOf entries ++ e.text := by
  simp [documentOf]

theorem linesOf_append (a b : List Entry) :
    linesOf (a ++ b) = linesOf a ++ b.flatMap Entry.lines := by
  simp [linesOf]

/-! ## Placeholders -/

theorem mem_trim_of_not_blank {c : Char} {text : List Char} (mem : c ∈ text)
    (shows : isBlank c = false) : c ∈ trim text := by
  have kept : ∀ {l : List Char}, c ∈ l → c ∈ l.dropWhile isBlank := by
    intro l inside
    rw [← List.takeWhile_append_dropWhile (p := isBlank) (l := l), List.mem_append] at inside
    rcases inside with blank | rest
    · rw [List.mem_takeWhile_imp blank] at shows
      cases shows
    · exact rest
  rw [trim, List.mem_reverse]
  exact kept (List.mem_reverse.2 (kept mem))

/-- A placeholder holds nothing that shows but the two braces. -/
theorem notMem_of_isPlaceholder {c : Char} {document : List Char}
    (placeholder : isPlaceholder document = true) (shows : isBlank c = false)
    (other : c ∉ ['\x7b', '\x7d']) : c ∉ document := by
  intro mem
  have inside := mem_trim_of_not_blank mem shows
  simp only [isPlaceholder, Bool.or_eq_true, decide_eq_true_eq] at placeholder
  rcases placeholder with empty | braces
  · rw [empty] at inside
    cases inside
  · exact other (braces ▸ inside)

/-- There is no block in a placeholder: a marker would show. -/
theorem find_of_isPlaceholder {document : List Char} (placeholder : isPlaceholder document = true)
    (key : List Char) : find key (splitLines document) = none := by
  refine find_eq_none_of_end_notMem fun mem => ?_
  have absent : '#' ∉ document := notMem_of_isPlaceholder placeholder (by decide) (by decide)
  have inMarker : '#' ∈ endMarker key := List.mem_of_head? (endMarker_head? key)
  have inWhole : '#' ∈ unlines (splitLines document) :=
    List.mem_flatMap.2 ⟨_, mem, List.mem_append_left _ inMarker⟩
  rw [← append_newline, List.mem_append] at inWhole
  exact inWhole.elim absent (by decide)

/-- A document with the header is no placeholder. -/
theorem not_isPlaceholder_documentOf (entries : List Entry) :
    isPlaceholder (documentOf entries) = false := by
  have letter : 'k' ∈ documentOf entries := List.mem_append_left _ (by decide +kernel)
  rw [Bool.eq_false_iff]
  exact fun placeholder =>
    notMem_of_isPlaceholder placeholder (by decide) (by decide) letter

section Sound

variable {entries : List Entry}

theorem newline_notMem_linesOf (sound : ∀ e ∈ entries, e.Sound) :
    ∀ line ∈ linesOf entries, '\n' ∉ line := by
  intro line mem
  rcases List.mem_append.1 mem with mem | mem
  · have free : ∀ line ∈ headerLines, '\n' ∉ line := by decide +kernel
    exact free line mem
  · obtain ⟨e, inside, mem⟩ := List.mem_flatMap.1 mem
    exact newline_notMem_blockLines (sound e inside).free _ line mem

/-- Behind the last newline of the document stands an empty line. -/
theorem splitLines_documentOf (sound : ∀ e ∈ entries, e.Sound) :
    splitLines (documentOf entries) = linesOf entries ++ [[]] := by
  rw [documentOf_eq_unlines, splitLines_unlines (newline_notMem_linesOf sound)]

/-- Where the search finds no entry there is not even an end marker. -/
theorem endMarker_notMem_flatMap (sound : ∀ e ∈ entries, e.Sound) {key : List Char}
    (absent : ∀ e ∈ entries, e.isFoundBy key = false) :
    endMarker key ∉ entries.flatMap Entry.lines := by
  intro mem
  obtain ⟨e, inside, mem⟩ := List.mem_flatMap.1 mem
  have isFound := Entry.isFoundBy_of_endMarker_mem (sound e inside) mem
  rw [absent e inside] at isFound
  cases isFound

/-- Where the search finds no entry it finds no block. -/
theorem find_documentOf_eq_none (sound : ∀ e ∈ entries, e.Sound) {key : List Char}
    (absent : ∀ e ∈ entries, e.isFoundBy key = false) :
    find key (splitLines (documentOf entries)) = none := by
  refine find_eq_none_of_end_notMem fun mem => ?_
  rw [splitLines_documentOf sound, List.mem_append, linesOf, List.mem_append,
    List.mem_singleton] at mem
  rcases mem with (mem | mem) | mem
  · exact not_isMarker_of_mem_headerLines mem (isMarker_endMarker key)
  · exact endMarker_notMem_flatMap sound absent mem
  · exact endMarker_ne_nil key mem

/-- What is found in the document is the last entry's block that can be found. -/
theorem find_documentOf {before after : List Entry} {e : Entry}
    (sound : ∀ x ∈ before ++ e :: after, x.Sound) {key : List Char}
    (isFound : e.isFoundBy key = true) (last : ∀ x ∈ after, x.isFoundBy key = false) :
    find key (splitLines (documentOf (before ++ e :: after))) =
      some ((linesOf before).length, (linesOf before).length + e.lines.length - 1) := by
  obtain ⟨inner, shape, plain⟩ :=
    Entry.lines_eq_of_isFoundBy (sound e (by simp)) isFound
  have cut : splitLines (documentOf (before ++ e :: after)) =
      linesOf before ++
        beginMarker key :: (inner ++ endMarker key :: (after.flatMap Entry.lines ++ [[]])) := by
    rw [splitLines_documentOf sound, linesOf_append, List.flatMap_cons, shape]
    simp
  have noBegin : beginMarker key ∉ inner := fun mem => plain _ mem (isMarker_beginMarker key)
  have noEnd : endMarker key ∉ after.flatMap Entry.lines ++ [[]] := by
    rw [List.mem_append, List.mem_singleton, not_or]
    exact ⟨endMarker_notMem_flatMap (fun x mem => sound x (by simp [mem])) last,
      endMarker_ne_nil key⟩
  have length : (linesOf before).length + e.lines.length - 1 =
      (linesOf before).length + inner.length + 1 := by
    rw [shape]
    simp
    omega
  rw [cut, find_of_block noBegin noEnd, length]

/-- The lines that are found for an entry give the text of the entry's block again. -/
theorem slice_documentOf {before after : List Entry} {e : Entry}
    (sound : ∀ x ∈ before ++ e :: after, x.Sound) :
    joinLines (slice (splitLines (documentOf (before ++ e :: after))) (linesOf before).length
      ((linesOf before).length + e.lines.length - 1)) ++ ['\n'] = e.text := by
  have nonempty : e.lines ≠ [] := by simp [Entry.lines, blockLines]
  have pos := List.length_pos_iff.2 nonempty
  have count : (linesOf before).length + e.lines.length - 1 + 1 - (linesOf before).length =
      e.lines.length := by omega
  rw [splitLines_documentOf sound, linesOf_append, List.flatMap_cons, List.append_assoc, slice,
    List.drop_left, count, List.append_assoc, List.take_left, joinLines_append_newline nonempty,
    Entry.text, render_eq_unlines]
  rfl

theorem getLast?_linesOf_ne (sound : ∀ e ∈ entries, e.Sound) :
    (linesOf entries).getLast? ≠ some [] := by
  rcases List.eq_nil_or_concat' entries with rfl | ⟨init, e, rfl⟩
  · decide +kernel
  · have shows := getLast?_blockLines_ne (sound e (by simp)).free e.fragment
    rw [linesOf_append, List.flatMap_cons, List.flatMap_nil, List.append_nil,
      List.getLast?_append_of_ne_nil _ (by simp [Entry.lines, blockLines])]
    exact shows

/-- The blocks behind a block do not end with an empty line, so a splice keeps them as they are. -/
theorem getLast?_flatMap_lines_ne (sound : ∀ e ∈ entries, e.Sound) :
    (entries.flatMap Entry.lines).getLast? ≠ some [] := by
  rcases eq_or_ne (entries.flatMap Entry.lines) [] with empty | nonempty
  · simp [empty]
  · have shows := getLast?_linesOf_ne sound
    rwa [linesOf, List.getLast?_append_of_ne_nil _ nonempty] at shows

/-- Splicing whole blocks in place of one block keeps the layout. -/
theorem splice_documentOf {before after : List Entry} {e : Entry}
    (sound : ∀ x ∈ before ++ e :: after, x.Sound) (insert : List Entry) :
    splice (documentOf (before ++ e :: after)) (splitLines (documentOf (before ++ e :: after)))
        (linesOf before).length ((linesOf before).length + e.lines.length - 1)
        (insert.flatMap Entry.text) =
      documentOf (before ++ insert ++ after) := by
  have inserted : insert.flatMap Entry.text = unlines (insert.flatMap Entry.lines) := by
    have whole := documentOf_eq_unlines insert
    rw [documentOf, linesOf, unlines_append, ← header_eq_unlines] at whole
    exact List.append_cancel_left whole
  have cut : documentOf (before ++ e :: after) =
      unlines (linesOf before ++ e.lines ++ after.flatMap Entry.lines) := by
    rw [documentOf_eq_unlines, linesOf_append, List.flatMap_cons, List.append_assoc]
  rw [cut, inserted, splice_unlines (by simp [Entry.lines, blockLines]), documentOf_eq_unlines,
    linesOf_append, linesOf_append]
  · intro line mem
    refine newline_notMem_linesOf sound line ?_
    rwa [linesOf_append, List.flatMap_cons, ← List.append_assoc]
  · exact getLast?_linesOf_ne fun x mem => sound x (by simp [mem])
  · exact getLast?_flatMap_lines_ne fun x mem => sound x (by simp [mem])

/-- A block that the document has not goes to its end. -/
theorem append_documentOf (entries : List Entry) (e : Entry) :
    append (documentOf entries) e.text = documentOf (entries ++ [e]) := by
  have ends : endsWithNewline (documentOf entries) = true := by
    rw [documentOf_eq_unlines]
    exact endsWithNewline_unlines (by simp [linesOf, headerLines])
  simp only [append, not_isPlaceholder_documentOf, Bool.false_eq_true, if_false, ends,
    Bool.not_true, Bool.and_false, documentOf_concat]

end Sound

end StateMetrics.Block
