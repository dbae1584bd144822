import StateMetrics.Proofs.Block.Marks

/-!
# The extent of a block

What is found for a key goes from a begin marker of the key to an end marker behind it, with no
begin marker in between and no end marker behind, and something is found wherever an end marker
stands behind a begin marker. An end marker does not use up its begin marker, though: where two end
markers come with no begin marker between them, the second closes the same block again, and what is
found goes on over the first and over all that stands between the two (`find_extent`).
-/

namespace StateMetrics.Block

open Text

variable {key : List Char} {lines before inner after : List (List Char)}

/-- No begin marker of the key stands between its last two end markers. Begin markers behind the
last end marker count for nothing. -/
def ClosesAgain (key : List Char) (lines : List (List Char)) : Prop :=
  [endMarker key, endMarker key] <+: (marks key lines).reverse.dropWhile (· = beginMarker key)

instance (key : List Char) (lines : List (List Char)) : Decidable (ClosesAgain key lines) :=
  inferInstanceAs (Decidable (_ <+: _))

/-! ## Lines by their numbers -/

section Numbers

variable {α : Type} {a b : α} {front mid back : List α}

theorem getElem?_front : (front ++ a :: (mid ++ b :: back))[front.length]? = some a := by
  rw [List.getElem?_append_right (Nat.le_refl _), Nat.sub_self, List.getElem?_cons_zero]

theorem getElem?_back :
    (front ++ a :: (mid ++ b :: back))[front.length + mid.length + 1]? = some b := by
  rw [Nat.add_assoc, List.getElem?_append_right (Nat.le_add_right ..), Nat.add_sub_cancel_left,
    List.getElem?_cons_succ, List.getElem?_append_right (Nat.le_refl _), Nat.sub_self,
    List.getElem?_cons_zero]

/-- Nothing stands behind the second of two members but what follows it. -/
theorem mem_of_getElem?_behind {i : Nat} {m : α} (behind : front.length + mid.length + 1 < i)
    (here : (front ++ a :: (mid ++ b :: back))[i]? = some m) : m ∈ back := by
  have cut : front ++ a :: (mid ++ b :: back) = (front ++ a :: (mid ++ [b])) ++ back := by simp
  rw [cut, List.getElem?_append_right (by simp; omega)] at here
  exact List.mem_of_getElem? here

/-- A member does not stand between two others exactly if no number between theirs is its own. -/
theorem forall_between_iff (m : α) :
    (∀ i, front.length < i → i < front.length + mid.length + 1 →
      (front ++ a :: (mid ++ b :: back))[i]? ≠ some m) ↔ m ∉ mid := by
  have inside (i : Nat) (low : i < mid.length) :
      (front ++ a :: (mid ++ b :: back))[front.length + (i + 1)]? = mid[i]? := by
    rw [List.getElem?_append_right (Nat.le_add_right ..), Nat.add_sub_cancel_left,
      List.getElem?_cons_succ, List.getElem?_append_left low]
  constructor
  · intro between mem
    obtain ⟨i, low, rfl⟩ := List.getElem_of_mem mem
    refine between (front.length + (i + 1)) (by omega) (by omega) ?_
    rw [inside i low, List.getElem?_eq_getElem low]
  · intro absent i low high same
    obtain ⟨k, rfl⟩ : ∃ k, i = front.length + (k + 1) := ⟨i - front.length - 1, by omega⟩
    rw [inside k (by omega)] at same
    exact absent (List.mem_of_getElem? same)

/-- A pair stands in a list in this order if the numbers of its members do. -/
theorem pair_sublist_of_getElem? {list : List α} {i j : Nat} (less : i < j)
    (first : list[i]? = some a) (second : list[j]? = some b) : [a, b].Sublist list := by
  have inFront : a ∈ list.take j := by
    rw [List.mem_iff_getElem?]
    exact ⟨i, by rw [List.getElem?_take_of_lt less, first]⟩
  have behind : b ∈ list.drop j := by
    rw [List.mem_iff_getElem?]
    exact ⟨0, by rw [List.getElem?_drop, Nat.add_zero, second]⟩
  rw [← List.take_append_drop j list]
  exact (List.singleton_sublist.2 inFront).append (List.singleton_sublist.2 behind)

end Numbers

/-! ## Markers inside a block -/

/-- A begin marker in front of an end marker among all lines is one among the markers. -/
theorem pair_sublist_marks_iff : [beginMarker key, endMarker key].Sublist (marks key lines) ↔
    [beginMarker key, endMarker key].Sublist lines := by
  constructor
  · exact fun both => both.trans List.filter_sublist
  · intro both
    have kept : [beginMarker key, endMarker key].filter
        (fun line => line = beginMarker key ∨ line = endMarker key) =
        [beginMarker key, endMarker key] := by simp
    rw [← kept]
    exact both.filter _

/-- Among lines without a begin marker only end markers are markers of the key. -/
theorem eq_endMarker_of_mem_marks {line : List Char} (noBegin : beginMarker key ∉ lines)
    (mem : line ∈ marks key lines) : line = endMarker key := by
  obtain ⟨inside, isMarker⟩ := List.mem_filter.1 mem
  rcases of_decide_eq_true isMarker with rfl | rfl
  · exact absurd inside noBegin
  · rfl

/-- A block has an end marker inside exactly if its last one closes it again. -/
theorem closesAgain_cut_iff (noBegin : beginMarker key ∉ inner) (noEnd : endMarker key ∉ after) :
    ClosesAgain key (before ++ beginMarker key :: (inner ++ endMarker key :: after)) ↔
      endMarker key ∈ inner := by
  have dangling : ∀ line ∈ (marks key after).reverse,
      (fun line => decide (line = beginMarker key)) line = true := by
    intro line mem
    obtain ⟨inside, isMarker⟩ := List.mem_filter.1 (List.mem_reverse.1 mem)
    refine decide_eq_true ((of_decide_eq_true isMarker).resolve_right fun isEnd => ?_)
    exact noEnd (isEnd ▸ inside)
  have fromEnd : (marks key (before ++ beginMarker key :: (inner ++ endMarker key :: after))).reverse
        = (marks key after).reverse ++ endMarker key ::
          ((marks key inner).reverse ++ beginMarker key :: (marks key before).reverse) := by
    rw [marks_cut]
    simp
  have differ : endMarker key ≠ beginMarker key := (beginMarker_ne_endMarker key key).symm
  rw [ClosesAgain, fromEnd, List.dropWhile_append_of_pos dangling,
    List.dropWhile_cons_of_neg (by simpa using differ), List.cons_prefix_cons]
  simp only [true_and]
  constructor
  · intro second
    cases shape : (marks key inner).reverse with
    | nil =>
      rw [shape, List.nil_append, List.cons_prefix_cons] at second
      exact absurd second.1 differ
    | cons line rest =>
      have mem : line ∈ marks key inner := by
        rw [← List.mem_reverse, shape]
        exact List.mem_cons_self
      have isEnd := eq_endMarker_of_mem_marks noBegin mem
      exact isEnd ▸ List.mem_of_mem_filter mem
  · intro inside
    have mem : endMarker key ∈ (marks key inner).reverse := by
      rw [List.mem_reverse]
      exact List.mem_filter.2 ⟨inside, by simp⟩
    obtain ⟨line, rest, shape⟩ := List.exists_cons_of_ne_nil (List.ne_nil_of_mem mem)
    have isEnd : line = endMarker key := by
      refine eq_endMarker_of_mem_marks noBegin (List.mem_reverse.1 ?_)
      rw [shape]
      exact List.mem_cons_self
    rw [shape, isEnd, List.cons_append]
    exact List.cons_prefix_cons.2 ⟨rfl, List.nil_prefix⟩

/-! ## What is found -/

/-- The two lines that are found are the markers, in their order. -/
theorem bounds_of_find {first last : Nat} (found : find key lines = some (first, last)) :
    first < last ∧ last < lines.length ∧
      lines[first]? = some (beginMarker key) ∧ lines[last]? = some (endMarker key) := by
  obtain ⟨before, inner, after, rfl, -, -, rfl, rfl⟩ := find_eq_some_iff.1 found
  have closes : (before ++ beginMarker key :: (inner ++ endMarker key :: after))[
      before.length + inner.length + 1]? = some (endMarker key) := getElem?_back
  exact ⟨by omega, (List.getElem?_eq_some_iff.1 closes).1, getElem?_front, closes⟩

/-- Something is found exactly if an end marker of the key stands behind a begin marker. It goes
from a begin marker to an end marker, with no begin marker between the two and no end marker behind;
and no end marker stands between the two exactly if a begin marker comes between the last two end
markers. -/
theorem find_extent (key : List Char) (lines : List (List Char)) :
    ((∃ place, find key lines = some place) ↔
      ∃ i j : Nat, i < j ∧ lines[i]? = some (beginMarker key) ∧ lines[j]? = some (endMarker key)) ∧
    ∀ first last : Nat, find key lines = some (first, last) →
      first < last ∧ last < lines.length ∧
      lines[first]? = some (beginMarker key) ∧ lines[last]? = some (endMarker key) ∧
      (∀ i : Nat, first < i → i < last → lines[i]? ≠ some (beginMarker key)) ∧
      (∀ i : Nat, last < i → lines[i]? ≠ some (endMarker key)) ∧
      ((∀ i : Nat, first < i → i < last → lines[i]? ≠ some (endMarker key)) ↔
        ¬ ClosesAgain key lines) := by
  refine ⟨⟨?_, ?_⟩, ?_⟩
  · rintro ⟨⟨first, last⟩, found⟩
    obtain ⟨less, -, opens, closes⟩ := bounds_of_find found
    exact ⟨first, last, less, opens, closes⟩
  · rintro ⟨i, j, less, opens, closes⟩
    refine Option.ne_none_iff_exists'.1 (find_ne_none_iff.2 (pair_sublist_marks_iff.2 ?_))
    exact pair_sublist_of_getElem? less opens closes
  · intro first last found
    obtain ⟨less, inside, opens, closes⟩ := bounds_of_find found
    obtain ⟨before, inner, after, rfl, noBegin, noEnd, rfl, rfl⟩ := find_eq_some_iff.1 found
    refine ⟨less, inside, opens, closes, (forall_between_iff _).2 noBegin,
      fun i behind here => noEnd (mem_of_getElem?_behind behind here), ?_⟩
    rw [forall_between_iff, closesAgain_cut_iff noBegin noEnd]

/-- Two begin markers and then two end markers, of which another begin marker in between keeps the
last one to its own block. -/
theorem find_extent_of_three_begins :
    let lines := [beginMarker ['a'], beginMarker ['a'], endMarker ['a'], ['x'], beginMarker ['a'],
      endMarker ['b'], endMarker ['a'], beginMarker ['a']]
    find ['a'] lines = some (4, 6) ∧ ¬ ClosesAgain ['a'] lines ∧
      ∀ i : Nat, 4 < i → i < 6 →
        lines[i]? ≠ some (beginMarker ['a']) ∧ lines[i]? ≠ some (endMarker ['a']) := by
  intro lines
  have found : find ['a'] lines = some (4, 6) := by decide +kernel
  have once : ¬ ClosesAgain ['a'] lines := by decide +kernel
  obtain ⟨-, -, -, -, noBegin, -, noEnd⟩ := (find_extent ['a'] lines).2 4 6 found
  exact ⟨found, once, fun i low high => ⟨noBegin i low high, noEnd.2 once i low high⟩⟩

/-- An end marker that lost its begin marker closes the block in front of it once more, over the
block of another key. -/
theorem find_over_other_block :
    let lines := [beginMarker ['a'], endMarker ['a'], beginMarker ['b'], endMarker ['b'],
      endMarker ['a']]
    find ['a'] lines = some (0, 4) ∧ lines[1]? = some (endMarker ['a']) ∧
      find ['b'] lines = some (2, 3) ∧ ClosesAgain ['a'] lines ∧
      remove (unlines lines) ['a'] = some [] := by
  decide +kernel

end StateMetrics.Block
