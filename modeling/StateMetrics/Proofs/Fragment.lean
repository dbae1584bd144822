import StateMetrics.Fragment
import StateMetrics.Proofs.Block.Layout

/-!
# Lines of the encoded resources

Nesting a text works on its lines one by one (`splitLines_nest`): it leaves an empty line and one of
white space alone and indents every other. So no line of the encoded resources starts with anything
but white space, and none can be mistaken for a marker, whatever the resources hold.
-/

namespace StateMetrics.Fragment

open Text

/-- What nesting does to one line. -/
def nestLine (line : List Char) : List Char :=
  if isBlankText line then line else indentation ++ line

theorem splitAfterNewlines_of_newline_notMem {line : List Char} (free : '\n' ∉ line)
    (nonempty : line ≠ []) : splitAfterNewlines line = [line] := by
  induction line with
  | nil => exact absurd rfl nonempty
  | cons c line ih =>
    have other : c ≠ '\n' := fun h => free (h ▸ List.mem_cons_self)
    rw [splitAfterNewlines, if_neg other]
    by_cases last : line = []
    · rw [last]
      rfl
    · rw [ih (fun h => free (List.mem_cons_of_mem _ h)) last]

/-- A line that ends with a newline is the first piece. -/
theorem splitAfterNewlines_append {line : List Char} (free : '\n' ∉ line) (text : List Char) :
    splitAfterNewlines (line ++ '\n' :: text) = (line ++ ['\n']) :: splitAfterNewlines text := by
  induction line with
  | nil => rw [List.nil_append, splitAfterNewlines, if_pos rfl, List.nil_append]
  | cons c line ih =>
    have other : c ≠ '\n' := fun h => free (h ▸ List.mem_cons_self)
    rw [List.cons_append, splitAfterNewlines, if_neg other,
      ih fun h => free (List.mem_cons_of_mem _ h)]
    rfl

theorem nest_append {line : List Char} (free : '\n' ∉ line) (text : List Char) :
    nest (line ++ '\n' :: text) = nestLine line ++ '\n' :: nest text := by
  have blank : isBlankText (line ++ ['\n']) = isBlankText line := by
    have newline : isBlank '\n' = true := by decide
    simp [isBlankText, newline]
  rw [nest, splitAfterNewlines_append free, List.flatMap_cons, blank, nestLine]
  split
  · rw [List.append_assoc]
    rfl
  · rw [List.append_assoc, List.append_assoc, List.append_assoc]
    rfl

theorem nest_of_newline_notMem {line : List Char} (free : '\n' ∉ line) :
    nest line = nestLine line := by
  rcases eq_or_ne line [] with rfl | filled
  · rfl
  · rw [nest, splitAfterNewlines_of_newline_notMem free filled, nestLine]
    exact List.append_nil _

theorem nest_joinLines {lines : List (List Char)} (nonempty : lines ≠ [])
    (free : ∀ line ∈ lines, '\n' ∉ line) :
    nest (joinLines lines) = joinLines (lines.map nestLine) := by
  induction lines with
  | nil => exact absurd rfl nonempty
  | cons line lines ih =>
    have lineFree := free line List.mem_cons_self
    by_cases last : lines = []
    · rw [last]
      exact nest_of_newline_notMem lineFree
    · rw [joinLines_cons line last, nest_append lineFree,
        ih last fun l mem => free l (List.mem_cons_of_mem _ mem), List.map_cons,
        joinLines_cons _ (by simpa using last)]

/-- The lines of a nested text are the nested lines. -/
theorem splitLines_nest (text : List Char) :
    splitLines (nest text) = (splitLines text).map nestLine := by
  have free : ∀ line ∈ splitLines text, '\n' ∉ line := fun _ => newline_notMem_of_mem_splitLines
  have nested := nest_joinLines (splitLines_ne_nil text) free
  rw [joinLines_splitLines] at nested
  rw [nested, splitLines_joinLines]
  · simpa using splitLines_ne_nil text
  · intro line mem
    obtain ⟨line, inside, rfl⟩ := List.mem_map.1 mem
    rw [nestLine]
    split
    · exact free line inside
    · rw [List.mem_append, not_or]
      exact ⟨by decide, free line inside⟩

/-- A nested line starts with white space if it has anything in it. -/
theorem isBlank_of_head?_nestLine {line : List Char} {c : Char}
    (head : (nestLine line).head? = some c) : isBlank c = true := by
  rw [nestLine] at head
  split at head
  · next blank =>
    exact List.all_eq_true.1 blank c (List.mem_of_head? head)
  · have space : c = ' ' := (Option.some.inj head).symm
    rw [space]
    decide

/-- A text whose lines start with white space, if with anything, cannot be mistaken for markers. -/
theorem tame_of_head?_blank {text : List Char}
    (blank : ∀ line ∈ splitLines text, ∀ c, line.head? = some c → isBlank c = true) :
    Block.Tame text := by
  have hash : isBlank '#' = false := by decide
  intro init last split
  constructor
  · intro line mem marker
    have white := blank line (by simp [split, mem]) '#' marker.head?
    rw [hash] at white
    cases white
  · intro shows key marker
    obtain ⟨c, rest, rfl⟩ := List.exists_cons_of_ne_nil shows
    have white := blank (c :: rest) (by simp [split]) c rfl
    have same : c = '#' := Option.some.inj marker.head?
    rw [same, hash] at white
    cases white

/-- A text with nothing behind its first line has one line. -/
theorem newline_notMem_of_afterFirstLine?_eq_none {text : List Char}
    (whole : afterFirstLine? text = none) : '\n' ∉ text := by
  induction text with
  | nil => simp
  | cons c text ih =>
    rw [afterFirstLine?] at whole
    split at whole
    · cases whole
    · next other =>
      rw [List.mem_cons, not_or]
      exact ⟨fun h => other h.symm, ih whole⟩

/-- The name of the list comes first in it. -/
theorem head?_listing (resources : List Json) : (listing resources).head? = some 'r' := by
  have name : (Yaml.scalar 2 "resources".toList).text.head? = some 'r' := by decide +kernel
  have simple : Yaml.isSimpleName "resources" = true := by decide +kernel
  obtain ⟨after, shape⟩ : ∃ after, listing resources =
      (Yaml.scalar 2 "resources".toList).text ++ ':' :: after := by
    rw [listing, Yaml.document]
    simp only [Yaml.entries, Yaml.entry, simple, if_true, Yaml.lineStart, Yaml.spaces,
      List.replicate_zero, List.nil_append, List.append_nil]
    split
    · exact ⟨_, rfl⟩
    · exact ⟨_, List.append_assoc _ _ _⟩
  rw [shape, List.head?_append, name]
  rfl

/-- No line of the encoded resources can be mistaken for a marker. -/
theorem tame_encodeChars (resources : List Json) : Block.Tame (encodeChars resources) := by
  rw [encodeChars]
  cases cut : afterFirstLine? (listing resources) with
  | none =>
    have free := newline_notMem_of_afterFirstLine?_eq_none cut
    have whole := splitLines_of_newline_notMem free
    intro init last split
    obtain ⟨rfl, same⟩ : init = [] ∧ [listing resources] = [last] := by
      rw [whole] at split
      have concat : [] ++ [listing resources] = init ++ [last] := split
      obtain ⟨empty, same⟩ := List.append_inj' concat rfl
      exact ⟨empty.symm, same⟩
    obtain rfl : listing resources = last := List.singleton_inj.1 same
    refine ⟨by simp, fun _ key marker => ?_⟩
    have letter := head?_listing resources
    have hash := marker.head?
    rw [List.head?_append, letter] at hash
    cases hash
  | some rest =>
    -- Every line that shows is nested, so that it starts with white space and no marker does.
    refine tame_of_head?_blank fun line mem c head => ?_
    rw [splitLines_nest, List.mem_map] at mem
    obtain ⟨line, -, rfl⟩ := mem
    exact isBlank_of_head?_nestLine head

/-! ## A single text -/

/-- The listing of one text, spelled out for evaluation. -/
theorem listing_str (text : String) :
    listing [.str text] = (Yaml.scalar 2 "resources".toList).text ++ ':' :: '\n' :: '-' :: ' ' ::
      ((Yaml.scalar 2 text.toList).text ++
        if (Yaml.scalar 2 text.toList).closed then [] else ['\n']) := by
  have simple : Yaml.isSimpleName "resources" = true := by decide +kernel
  simp [listing, Yaml.document, Yaml.entries, Yaml.entry, Yaml.value, Yaml.items, simple,
    Yaml.lineStart, Yaml.spaces]
  split <;> simp

/-- A block of one text closes if its scalar does. -/
theorem closes_str (text : String) :
    Block.closes (encode [.str text]).toList = Block.closes (nest ('-' :: ' ' ::
      ((Yaml.scalar 2 text.toList).text ++
        if (Yaml.scalar 2 text.toList).closed then [] else ['\n']))) := by
  have name : (Yaml.scalar 2 "resources".toList).text = "resources".toList := by decide +kernel
  rw [encode, String.toList_ofList, encodeChars, listing_str, name]
  rfl

end StateMetrics.Fragment
