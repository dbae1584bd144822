import StateMetrics.Proofs.Nesting
import StateMetrics.Proofs.Yaml.Ends

/-!
# What the markers of a block enclose

The text of some resources goes between the markers of a block as it is. It cannot end the block nor
start another: each of its lines starts with white space if it has anything in it, and a marker does
not. It ends with a newline if the listing does, so that the end marker stands on a line of its own
(`isMarker_render_encodeChars`). The listing ends with a newline wherever it has no other line breaks
(`endsWithNewline_listing`).
-/

namespace StateMetrics.Fragment

open Text Yaml

/-! ## The end of the text -/

/-- The listing ends with a line break, which is a newline if it has no others. -/
theorem endsWithNewline_listing {resources : List Json} (only : OnlyNewlines (listing resources)) :
    endsWithNewline (listing resources) = true := by
  have shape := listing_eq_value resources
  obtain ⟨c, last, isEnd⟩ := ends_lineStart (ends_value (.arr resources) .afterName 0)
  have ends : (listing resources).getLast? = some c := by
    rw [shape, List.append_cons, List.getLast?_append, last]
    rfl
  rw [endsWithNewline, ends, only c (List.mem_of_getLast? ends) isEnd]
  rfl

/-- A text over several lines brings its own break to the end. -/
example : endsWithNewline (listing [.str "a\nb\u2028"]) = false := by
  rw [listing_str]
  decide +kernel

/-- Nesting neither empties a line nor fills an empty one. -/
theorem nestLine_eq_nil {line : List Char} : nestLine line = [] ↔ line = [] := by
  constructor
  · intro empty
    rw [nestLine] at empty
    split at empty
    · exact empty
    · have long := congrArg List.length empty
      simp [indentation, spaces] at long
  · rintro rfl
    rfl

/-- Nested text ends a line exactly if the text did. -/
theorem closes_nest (text : List Char) : Block.closes (nest text) = Block.closes text := by
  obtain ⟨init, last, split⟩ := exists_splitLines_eq_concat text
  have nested : splitLines (nest text) = init.map nestLine ++ [nestLine last] := by
    rw [splitLines_nest, split, List.map_append, List.map_singleton]
  rw [Bool.eq_iff_iff, Block.closes_iff_last nested, Block.closes_iff_last split, nestLine_eq_nil]

theorem printed_ne_nil {resources : List Json} (nonempty : resources ≠ []) (column : Nat) :
    printed column resources ≠ [] := by
  obtain ⟨first, others, rfl⟩ := List.exists_cons_of_ne_nil nonempty
  simp [printed, items]

theorem listing_nil : listing [] = "resources: []\n".toList := by
  rw [listing_eq_value, value]
  decide +kernel

/-- No resources make no text, and some make some. -/
theorem encodeChars_eq_nil_iff (resources : List Json) :
    encodeChars resources = [] ↔ resources = [] := by
  constructor
  · intro empty
    by_contra nonempty
    obtain ⟨first, others, shape⟩ := List.exists_cons_of_ne_nil (printed_ne_nil nonempty 0)
    rw [encodeChars_eq_nest nonempty] at empty
    have lines := congrArg splitLines empty
    rw [splitLines_nest] at lines
    have blank : splitLines (printed 0 resources) = [[]] := by
      obtain ⟨line, more⟩ := List.map_eq_singleton_iff.1 lines
      rw [more.1, nestLine_eq_nil.1 more.2]
    have whole := joinLines_splitLines (printed 0 resources)
    rw [blank] at whole
    exact printed_ne_nil nonempty 0 whole.symm
  · rintro rfl
    rw [encodeChars, listing_nil]
    decide +kernel

/-- The text of resources ends a line exactly if the listing does. -/
theorem closes_encodeChars (resources : List Json) :
    Block.closes (encodeChars resources) = endsWithNewline (listing resources) := by
  rcases eq_or_ne resources [] with rfl | nonempty
  · rw [(encodeChars_eq_nil_iff []).2 rfl, listing_nil]
    decide +kernel
  · have shows := printed_ne_nil nonempty 0
    have ends : endsWithNewline (listing resources) = endsWithNewline (printed 0 resources) := by
      rw [listing_eq_printed nonempty, List.append_cons, endsWithNewline_append shows]
    rw [encodeChars_eq_nest nonempty, closes_nest, ends, Block.closes]
    simp [shows]

/-! ## Markers -/

/-- Where a line of the text of resources has anything in it, it starts with white space. -/
theorem isBlank_of_head?_encodeChars {resources : List Json} {line : List Char} {c : Char}
    (mem : line ∈ splitLines (encodeChars resources)) (head : line.head? = some c) :
    Text.isBlank c = true := by
  rcases eq_or_ne resources [] with empty | nonempty
  · rw [(encodeChars_eq_nil_iff resources).2 empty] at mem
    rw [List.mem_singleton.1 mem] at head
    cases head
  · rw [encodeChars_eq_nest nonempty, splitLines_nest, List.mem_map] at mem
    obtain ⟨line, -, rfl⟩ := mem
    exact isBlank_of_head?_nestLine head

/-- No line of the text of resources is a marker of any key. -/
theorem not_isMarker_of_mem_encodeChars {resources : List Json} {line : List Char}
    (mem : line ∈ splitLines (encodeChars resources)) : ¬ Block.IsMarker line := fun marker =>
  absurd (isBlank_of_head?_encodeChars mem marker.head?) (by decide)

/-- The text of resources is empty exactly if there are none, and no line of it is a marker of any
key. Where the listing ends with a newline the text does too, if there is any; and then the markers
around it are the only lines of its block that are markers. -/
theorem isMarker_render_encodeChars (resources : List Json) :
    (encodeChars resources = [] ↔ resources = []) ∧
    (∀ line ∈ splitLines (encodeChars resources), ¬ Block.IsMarker line) ∧
    (endsWithNewline (listing resources) = true →
      (encodeChars resources = [] ∨ endsWithNewline (encodeChars resources) = true) ∧
      ∀ key, '\n' ∉ key → ∃ inner,
        splitLines (Block.render key (encodeChars resources)) =
          Block.beginMarker key :: (inner ++ [Block.endMarker key, []]) ∧
        ∀ line ∈ inner, ¬ Block.IsMarker line) := by
  refine ⟨encodeChars_eq_nil_iff resources, fun _ => not_isMarker_of_mem_encodeChars,
    fun terminated => ?_⟩
  have closed : Block.closes (encodeChars resources) = true := by
    rw [closes_encodeChars, terminated]
  refine ⟨by simpa [Block.closes] using closed, fun key free => ?_⟩
  obtain ⟨init, last, split⟩ := exists_splitLines_eq_concat (encodeChars resources)
  obtain rfl : last = [] := (Block.closes_iff_last split).1 closed
  have inside : ∀ line ∈ init, ¬ Block.IsMarker line := fun line mem =>
    not_isMarker_of_mem_encodeChars (split ▸ List.mem_append_left _ mem)
  refine ⟨init, ?_, inside⟩
  rw [Block.render_eq_unlines, splitLines_unlines (Block.newline_notMem_blockLines free _),
    Block.blockLines_eq free split]
  simp

/-- A text with the markers of the very block among its lines. -/
theorem isMarker_render_encodeChars_of_markers :
    let text := "# END CustomResourceStateMetrics k\n# BEGIN CustomResourceStateMetrics k\n"
    endsWithNewline (listing [.str text]) = true ∧ '\n' ∉ ['k'] ∧
      ∃ inner, splitLines (Block.render ['k'] (encodeChars [.str text])) =
          Block.beginMarker ['k'] :: (inner ++ [Block.endMarker ['k'], []]) ∧
        ∀ line ∈ inner, ¬ Block.IsMarker line := by
  intro text
  have terminated : endsWithNewline (listing [.str text]) = true := by
    rw [listing_str]
    decide +kernel
  have free : '\n' ∉ ['k'] := by decide
  obtain ⟨-, -, framed⟩ := isMarker_render_encodeChars [.str text]
  exact ⟨terminated, free, (framed terminated).2 ['k'] free⟩

end StateMetrics.Fragment
