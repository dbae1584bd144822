import StateMetrics.Proofs.Fragment
import StateMetrics.Proofs.Yaml.Depth
import StateMetrics.Proofs.Yaml.Documents

/-!
# Where nesting keeps a text's shape

The encoded resources are the listing below its first line with its lines moved to the right. A line
is moved if it shows anything to Unicode; a block scalar needs it to be moved if it has anything but
spaces. The two agree exactly if no line is blank by white space of another kind. Then the nested
lines are the list printed at another column, and so they are read as the list that the listing is
read as, if newlines are the only line ends (`encodeChars_nests`).
-/

namespace StateMetrics.Fragment

open Text Yaml

/-- The line moved to the right, unless there is nothing in it but spaces. -/
def shiftLine (line : List Char) : List Char :=
  if line.all (· = ' ') then line else indentation ++ line

/-- The text with its lines moved to the right. -/
def shift (text : List Char) : List Char := joinLines ((splitLines text).map shiftLine)

/-- The line is blank only where it has spaces. -/
def IsPlainBlank (line : List Char) : Prop := isBlankText line = true → ∀ c ∈ line, c = ' '

instance (line : List Char) : Decidable (IsPlainBlank line) :=
  decidable_of_iff ((!isBlankText line || line.all (· = ' ')) = true) (by
    simp [IsPlainBlank, or_iff_not_imp_left])

theorem newline_notMem_shiftLine {line : List Char} (free : '\n' ∉ line) :
    '\n' ∉ shiftLine line := by
  rw [shiftLine]
  split
  · exact free
  · rw [List.mem_append, not_or]
    exact ⟨by decide, free⟩

/-- The lines of moved text are the moved lines. -/
theorem splitLines_shift (text : List Char) :
    splitLines (shift text) = (splitLines text).map shiftLine := by
  apply splitLines_joinLines
  · simpa using splitLines_ne_nil text
  · intro line mem
    obtain ⟨line, inside, rfl⟩ := List.mem_map.1 mem
    exact newline_notMem_shiftLine (newline_notMem_of_mem_splitLines inside)

/-- A line is nested as it is to be moved exactly unless it is blank by other than spaces. -/
theorem nestLine_eq_shiftLine_iff (line : List Char) :
    nestLine line = shiftLine line ↔ IsPlainBlank line := by
  have moved : line ≠ indentation ++ line := fun same => by
    have lengths := congrArg List.length same
    simp [indentation, spaces] at lengths
    omega
  have space : Text.isBlank ' ' = true := by decide
  have spaces : line.all (· = ' ') = true ↔ ∀ c ∈ line, c = ' ' := by simp
  rw [nestLine, shiftLine, IsPlainBlank, ← spaces]
  cases blank : isBlankText line with
  | true =>
    cases plain : line.all (· = ' ') with
    | true => simp
    | false => simpa using moved
  | false =>
    cases plain : line.all (· = ' ') with
    | true =>
      have all : isBlankText line = true :=
        List.all_eq_true.2 fun c mem => (spaces.1 plain c mem) ▸ space
      rw [blank] at all
      cases all
    | false => simp

/-- A text is nested as it is to be moved exactly if each of its lines is. -/
theorem nest_eq_shift_iff (text : List Char) :
    nest text = shift text ↔ ∀ line ∈ splitLines text, IsPlainBlank line := by
  have lines : nest text = shift text ↔ splitLines (nest text) = splitLines (shift text) := by
    constructor
    · intro same
      rw [same]
    · intro same
      rw [← joinLines_splitLines (nest text), same, joinLines_splitLines]
  rw [lines, splitLines_nest, splitLines_shift, List.map_inj_left]
  simp only [nestLine_eq_shiftLine_iff]

/-! ## Moved lines -/

/-- A line in front of the next is moved as the lines of printed text are. -/
theorem deepen_line {line : List Char} (inside : ∀ c ∈ line, isBreak c = false)
    (rest : List Char) : deepen 4 true (line ++ rest) =
      shiftLine line ++ deepen 4 (line.all (· = ' ')) rest := by
  induction line with
  | nil => rfl
  | cons c line ih =>
    obtain ⟨first, others⟩ := List.forall_mem_cons.1 inside
    by_cases space : c = ' '
    · have further : shiftLine (' ' :: line) = ' ' :: shiftLine line := by
        rw [shiftLine, shiftLine, List.all_cons, decide_eq_true rfl, Bool.true_and]
        split
        · rfl
        · exact (congrArg (· ++ line) (spaces_succ 4).symm : ' ' :: (spaces 4 ++ line) = _)
      rw [space, List.cons_append, deepen_space, ih others, further, List.all_cons,
        decide_eq_true rfl, Bool.true_and, List.cons_append]
    · have filled : (c :: line).all (· = ' ') = false := by simp [space]
      rw [shiftLine, filled, if_neg Bool.false_ne_true, indentation, List.cons_append,
        deepen_start first space, ← List.cons_append, deepen_append inside, List.append_assoc]

/-- Printed text moves line by line. -/
theorem deepen_joinLines {lines : List (List Char)}
    (inside : ∀ line ∈ lines, ∀ c ∈ line, isBreak c = false) :
    deepen 4 true (joinLines lines) = joinLines (lines.map shiftLine) := by
  have newline : isBreak '\n' = true := by decide
  induction lines with
  | nil => rfl
  | cons line lines ih =>
    obtain ⟨first, others⟩ := List.forall_mem_cons.1 inside
    cases lines with
    | nil =>
      have alone := deepen_line first []
      rw [List.append_nil] at alone
      rw [joinLines, alone, deepen, List.append_nil]
      rfl
    | cons next lines =>
      have more : (next :: lines).map shiftLine ≠ [] := by simp
      rw [joinLines, deepen_line first, deepen_break newline, ih others]
      exact (joinLines_cons (shiftLine line) more).symm

/-- The lines of a text are moved as those of printed text are, if newlines alone end them. -/
theorem shift_eq_deepen {text : List Char} (only : OnlyNewlines text) :
    shift text = deepen 4 true text := by
  rw [shift, ← deepen_joinLines, joinLines_splitLines]
  intro line mem c inside
  have member : c ∈ text := by
    rw [← joinLines_splitLines text]
    exact subset_joinLines mem inside
  refine Bool.eq_false_iff.2 fun ends => newline_notMem_of_mem_splitLines mem ?_
  rw [← only c member ends]
  exact inside

/-! ## The listing -/

/-- The lines of a list at a column. -/
def printed (column : Nat) (list : List Json) : List Char :=
  (items column true list).text ++ lineStart (items column true list).closed 0

/-- The printed lines are moved as far as their column is. -/
theorem deepen_printed (count column : Nat) (list : List Json) :
    deepen count true (printed column list) = printed (column + count) list := by
  have moved : Moved count true (items column true list) (items (column + count) true list) :=
    moved_items (fun v _ place indent => moved_value v place indent) column true
  have last (closed : Bool) : deepen count closed (lineStart closed 0) = lineStart closed 0 := by
    cases closed <;> rfl
  rw [printed, moved.text, last, printed, moved.closed]

theorem isWordName_resources : IsWordName "resources".toList where
  word := List.all_eq_true.1 (by decide)
  starts c first := by rw [← Option.some.inj first]; decide
  nonempty := by decide
  short := by decide

theorem isWordName_spec : IsWordName "spec".toList where
  word := List.all_eq_true.1 (by decide)
  starts c first := by rw [← Option.some.inj first]; decide
  nonempty := by decide
  short := by decide

/-- The listing has the key in front of the list. -/
theorem listing_eq_value (resources : List Json) : listing resources =
    "resources".toList ++ ':' :: ((value .afterName 0 (.arr resources)).text ++
      lineStart (value .afterName 0 (.arr resources)).closed 0) := by
  have simple : isSimpleName "resources" = true := by decide +kernel
  have name : (scalar 2 "resources".toList).text = "resources".toList := by decide +kernel
  rw [listing, document]
  simp only [entries, entry, simple, if_true, lineStart, spaces, List.replicate_zero,
    List.nil_append, List.append_nil, name]
  split
  · simp
  · simp

/-- Some resources are listed on the lines behind the key. -/
theorem value_arr_eq {resources : List Json} (nonempty : resources ≠ []) :
    value .afterName 0 (.arr resources) =
      ⟨'\n' :: (items 0 true resources).text, (items 0 true resources).closed⟩ := by
  obtain ⟨first, others, rfl⟩ := List.exists_cons_of_ne_nil nonempty
  rw [value, items]
  simp [lineStart]

/-- Below the key of the listing the list is printed at the first column. -/
theorem listing_eq_printed {resources : List Json} (nonempty : resources ≠ []) :
    listing resources = "resources:".toList ++ '\n' :: printed 0 resources := by
  rw [listing_eq_value, value_arr_eq nonempty]
  rfl

/-- The text of resources is made of the listing below its first line. -/
theorem encodeChars_of_listing {resources : List Json} {rest : List Char}
    (listed : listing resources = "resources:".toList ++ '\n' :: rest) :
    encodeChars resources = nest rest := by
  have cut : afterFirstLine? (listing resources) = some rest := by
    rw [listed]
    rfl
  rw [encodeChars]
  simp only [cut]

/-- The text of some resources is their printed list nested. -/
theorem encodeChars_eq_nest {resources : List Json} (nonempty : resources ≠ []) :
    encodeChars resources = nest (printed 0 resources) :=
  encodeChars_of_listing (listing_eq_printed nonempty)

/-- Where newlines alone end the lines and no line is blank by other white space, the nested lines
are those of the list at their column. -/
theorem encodeChars_eq_printed {resources : List Json} (nonempty : resources ≠ [])
    (only : OnlyNewlines (printed 0 resources))
    (plain : ∀ line ∈ splitLines (printed 0 resources), IsPlainBlank line) :
    encodeChars resources = printed 4 resources := by
  rw [encodeChars_eq_nest nonempty, (nest_eq_shift_iff _).2 plain, shift_eq_deepen only,
    deepen_printed]

/-- The nested lines are read as the list below the keys of the document. -/
theorem read?_encode {resources : List Json} (nonempty : resources ≠ [])
    (only : OnlyNewlines (printed 0 resources))
    (plain : ∀ line ∈ splitLines (printed 0 resources), IsPlainBlank line) :
    Document.read? ("spec:\n  resources:\n" ++ encode resources) = some
      ⟨.member "spec".toList (.member "resources".toList (.ofJson (.arr resources))), []⟩ := by
  have moved : OnlyNewlines (printed 4 resources) := by
    rw [← deepen_printed 4 0]
    exact only.deepen true
  have whole : "spec:\n  resources:\n" ++ encode resources = String.ofList ("spec".toList ++
      ':' :: (lineStart false 2 ++ ("resources".toList ++ ':' :: '\n' ::
        printed 4 resources))) := by
    rw [encode, encodeChars_eq_printed nonempty only plain]
    apply String.toList_inj.1
    simp [lineStart, spaces]
  rw [whole]
  exact read?_nested isWordName_spec isWordName_resources nonempty (by decide)
    ((onlyNewlines_append _ _).1 moved).1

/-- The listing is read as the list below its key. -/
theorem read?_listing {resources : List Json} (nonempty : resources ≠ [])
    (only : OnlyNewlines (printed 0 resources)) :
    Document.read? (String.ofList (listing resources)) = some
      ⟨.member "resources".toList (.ofJson (.arr resources)), []⟩ := by
  rw [listing_eq_value]
  refine read?_member isWordName_resources ?_
  rw [value_arr_eq nonempty]
  simpa [printed] using only

/-- The lines of the listing below its first, moved to the right, are the text of some resources.
Every line that has anything but spaces is moved exactly if none is blank by other white space; and
then, where newlines alone end the lines, the text below the keys of the document is read as the
same list as the listing. -/
theorem encodeChars_nests {resources : List Json} (nonempty : resources ≠ []) :
    ∃ rest, listing resources = "resources:".toList ++ '\n' :: rest ∧
      encodeChars resources = nest rest ∧
      (encodeChars resources = shift rest ↔ ∀ line ∈ splitLines rest, IsPlainBlank line) ∧
      (OnlyNewlines rest →
        Document.read? (String.ofList (listing resources)) = some
          ⟨.member "resources".toList (.list (resources.map .ofJson)), []⟩ ∧
        ((∀ line ∈ splitLines rest, IsPlainBlank line) →
          Document.read? ("spec:\n  resources:\n" ++ encode resources) = some
            ⟨.member "spec".toList
              (.member "resources".toList (.list (resources.map .ofJson))), []⟩)) := by
  have found : Node.ofJson (.arr resources) = .list (resources.map .ofJson) := by
    rw [Node.ofJson, Node.ofItems_eq_map]
  have nested := encodeChars_eq_nest nonempty
  rw [← found]
  refine ⟨printed 0 resources, listing_eq_printed nonempty, nested, ?_, fun only =>
    ⟨read?_listing nonempty only, read?_encode nonempty only⟩⟩
  rw [nested]
  exact nest_eq_shift_iff _

/-- A text of two lines, printed as a block scalar and read back below the header. -/
theorem encodeChars_nests_of_two_lines :
    [Json.str "a\nb"] ≠ [] ∧
      encodeChars [.str "a\nb"] = shift "- |-\n  a\n  b\n".toList ∧
      Document.read? ("spec:\n  resources:\n" ++ encode [.str "a\nb"]) = some
        ⟨.member "spec".toList
          (.member "resources".toList (.list [.scalar "a\nb".toList false none])), []⟩ := by
  have nonempty : [Json.str "a\nb"] ≠ [] := List.cons_ne_nil _ _
  have listed : listing [.str "a\nb"] =
      "resources:".toList ++ '\n' :: "- |-\n  a\n  b\n".toList := by
    rw [listing_str]
    decide +kernel
  obtain ⟨rest, shape, -, moved, reads⟩ := encodeChars_nests nonempty
  obtain rfl : "- |-\n  a\n  b\n".toList = rest :=
    (List.cons.inj (List.append_cancel_left (listed.symm.trans shape))).2
  have plain : ∀ line ∈ splitLines "- |-\n  a\n  b\n".toList, IsPlainBlank line := by
    decide +kernel
  have only : OnlyNewlines "- |-\n  a\n  b\n".toList := by decide +kernel
  refine ⟨nonempty, moved.2 plain, ?_⟩
  rw [(reads only).2 plain, List.map_singleton, Node.ofJson, Node.ofText]
  rfl

/-- A text with a line that is blank by a no-break space: it reads back where it is listed, but not
below the header, as that line is not moved. -/
theorem encodeChars_noBreakSpace :
    let text := "a\n\u00a0\nb"
    let rest := "- |-\n  a\n  \u00a0\n  b\n".toList
    listing [.str text] = "resources:".toList ++ '\n' :: rest ∧
      encodeChars [.str text] ≠ shift rest ∧
      (Document.read? (String.ofList (listing [.str text]))).isSome ∧
      (Document.read? ("spec:\n  resources:\n" ++ encode [.str text])).isNone := by
  intro text rest
  have listed : listing [.str text] = "resources:".toList ++ '\n' :: rest := by
    rw [listing_str]
    decide +kernel
  have nested := encodeChars_of_listing listed
  refine ⟨listed, ?_, ?_, ?_⟩
  · rw [nested]
    decide +kernel
  · rw [listed]
    decide +kernel
  · rw [encode, nested]
    decide +kernel

/-- A line separator behind a newline ends a line of the printed text that is not moved. -/
example : (Document.read? ("spec:\n  resources:\n" ++ encode [.str "a\nb\u2028c"])).isNone := by
  have listed : listing [.str "a\nb\u2028c"] =
      "resources:".toList ++ '\n' :: "- |-\n  a\n  b\u2028  c\n".toList := by
    rw [listing_str]
    decide +kernel
  rw [encode, encodeChars_of_listing listed]
  decide +kernel

end StateMetrics.Fragment
