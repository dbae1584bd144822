import Mathlib.Data.List.Basic
import StateMetrics.Block.Marker

/-!
# What the search for a block finds

The search keeps the place of the last begin marker, and the last block that was closed. So it finds
a block exactly when an end marker stands somewhere behind a begin marker, and then the block goes
from the last begin marker in front of the last end marker to that end marker (`find_eq_some_iff`).
-/

namespace StateMetrics.Block

/-! ## Marker lines -/

theorem beginMarker_head? (key : List Char) : (beginMarker key).head? = some '#' := rfl

theorem endMarker_head? (key : List Char) : (endMarker key).head? = some '#' := rfl

theorem beginMarker_ne_endMarker (key other : List Char) : beginMarker key ≠ endMarker other := by
  intro same
  have beginThird : (beginMarker key)[2]? = some 'B' := rfl
  have endThird : (endMarker other)[2]? = some 'E' := rfl
  rw [same, endThird] at beginThird
  exact absurd beginThird (by decide)

theorem endMarker_injective : Function.Injective endMarker := fun _ _ same =>
  List.append_cancel_left same

theorem beginMarker_ne_nil (key : List Char) : beginMarker key ≠ [] := fun empty =>
  absurd (empty ▸ beginMarker_head? key) (by decide)

theorem endMarker_ne_nil (key : List Char) : endMarker key ≠ [] := fun empty =>
  absurd (empty ▸ endMarker_head? key) (by decide)

theorem newline_notMem_beginMarker {key : List Char} (free : '\n' ∉ key) :
    '\n' ∉ beginMarker key := fun mem =>
  (List.mem_append.1 mem).elim (absurd · (by decide +kernel)) free

theorem newline_notMem_endMarker {key : List Char} (free : '\n' ∉ key) : '\n' ∉ endMarker key :=
  fun mem => (List.mem_append.1 mem).elim (absurd · (by decide +kernel)) free

/-! ## The search, line by line -/

section Search

variable {opening closing : List Char}

/-- The search over some lines and further ones goes on with what it knows after the first. -/
theorem search_append (s : Search) (index : Nat) (a b : List (List Char)) :
    search opening closing s index (a ++ b) =
      search opening closing (search opening closing s index a) (index + a.length) b := by
  induction a generalizing s index with
  | nil => rfl
  | cons line a ih =>
    rw [List.cons_append, search, search, ih, List.length_cons]
    congr 1
    omega

/-- Without an end marker no block is closed. -/
theorem search_found_of_closing_notMem {lines : List (List Char)} (absent : closing ∉ lines)
    (s : Search) (index : Nat) : (search opening closing s index lines).found = s.found := by
  induction lines generalizing s index with
  | nil => rfl
  | cons line lines ih =>
    have other : line ≠ closing := fun h => absent (h ▸ List.mem_cons_self)
    have rest : closing ∉ lines := fun h => absent (List.mem_cons_of_mem _ h)
    rw [search, ih rest]
    split <;> simp

/-- Without a begin marker the last one stays what it was. -/
theorem search_opened_of_opening_notMem {lines : List (List Char)} (absent : opening ∉ lines)
    (s : Search) (index : Nat) : (search opening closing s index lines).opened = s.opened := by
  induction lines generalizing s index with
  | nil => rfl
  | cons line lines ih =>
    have other : line ≠ opening := fun h => absent (h ▸ List.mem_cons_self)
    have rest : opening ∉ lines := fun h => absent (List.mem_cons_of_mem _ h)
    rw [search, ih rest, if_neg other]
    split
    · split <;> rfl
    · rfl

/-- A begin marker, some lines without another, an end marker and some lines without another: the
block that was closed last goes from the one to the other. -/
theorem search_found_of_block (differ : opening ≠ closing) {inner after : List (List Char)}
    (noOpening : opening ∉ inner) (noClosing : closing ∉ after) (s : Search) (index : Nat) :
    (search opening closing s index (opening :: (inner ++ closing :: after))).found =
      some (index, index + inner.length + 1) := by
  rw [search, search_append, search, search_found_of_closing_notMem noClosing, if_neg differ.symm,
    if_pos rfl, search_opened_of_opening_notMem noOpening, if_pos rfl]
  simp only [Option.some.injEq, Prod.mk.injEq, true_and]
  omega

end Search

/-! ## Finding -/

variable {key : List Char} {lines : List (List Char)}

/-- Between the markers no begin marker of the key, behind them no end marker: this block is
found. -/
theorem find_of_block {before inner after : List (List Char)} (noBegin : beginMarker key ∉ inner)
    (noEnd : endMarker key ∉ after) :
    find key (before ++ beginMarker key :: (inner ++ endMarker key :: after)) =
      some (before.length, before.length + inner.length + 1) := by
  rw [find, search_append,
    search_found_of_block (beginMarker_ne_endMarker key key) noBegin noEnd, Nat.zero_add]

/-- A block that nothing ends is not found. -/
theorem find_eq_none_of_end_notMem (noEnd : endMarker key ∉ lines) : find key lines = none :=
  search_found_of_closing_notMem noEnd _ _

/-- A block that nothing begins in front of its last end marker is not found. -/
theorem find_eq_none_of_begin_notMem {before after : List (List Char)}
    (noBegin : beginMarker key ∉ before) (noEnd : endMarker key ∉ after) :
    find key (before ++ endMarker key :: after) = none := by
  rw [find, search_append, search, search_found_of_closing_notMem noEnd,
    if_neg (beginMarker_ne_endMarker key key).symm, if_pos rfl,
    search_opened_of_opening_notMem noBegin]
  -- Without a begin marker no end marker in front of this one closes anything either.
  have unopened : ∀ (rest : List (List Char)) (s : Search) (index : Nat), s = ⟨none, none⟩ →
      beginMarker key ∉ rest →
      search (beginMarker key) (endMarker key) s index rest = ⟨none, none⟩ := by
    intro rest
    induction rest with
    | nil => exact fun s _ blank _ => blank
    | cons line rest ih =>
      intro s index blank absent
      have other : line ≠ beginMarker key := fun h => absent (h ▸ List.mem_cons_self)
      subst blank
      rw [search, if_neg other]
      refine ih _ _ ?_ fun h => absent (List.mem_cons_of_mem _ h)
      split <;> rfl
  rw [unopened before _ 0 rfl noBegin]

/-- The last occurrence of a member of a list. -/
theorem exists_append_cons_of_mem {α : Type} {a : α} {list : List α} (member : a ∈ list) :
    ∃ before after, list = before ++ a :: after ∧ a ∉ after := by
  obtain ⟨after, before, shape, absent⟩ :=
    List.eq_append_cons_of_mem (List.mem_reverse.2 member)
  refine ⟨before.reverse, after.reverse, ?_, by simpa using absent⟩
  rw [← List.reverse_reverse list, shape]
  simp

/-- What is found goes from the last begin marker in front of the last end marker to that end
marker. -/
theorem find_eq_some_iff {first last : Nat} :
    find key lines = some (first, last) ↔
      ∃ before inner after, lines = before ++ beginMarker key :: (inner ++ endMarker key :: after) ∧
        beginMarker key ∉ inner ∧ endMarker key ∉ after ∧ first = before.length ∧
        last = before.length + inner.length + 1 := by
  constructor
  · intro found
    by_cases closed : endMarker key ∈ lines
    · obtain ⟨front, after, rfl, noEnd⟩ := exists_append_cons_of_mem closed
      by_cases opened : beginMarker key ∈ front
      · obtain ⟨before, inner, rfl, noBegin⟩ := exists_append_cons_of_mem opened
        rw [List.append_assoc, List.cons_append, find_of_block noBegin noEnd] at found
        simp only [Option.some.injEq, Prod.mk.injEq] at found
        exact ⟨before, inner, after, by simp, noBegin, noEnd, found.1.symm, found.2.symm⟩
      · rw [find_eq_none_of_begin_notMem opened noEnd] at found
        cases found
    · rw [find_eq_none_of_end_notMem closed] at found
      cases found
  · rintro ⟨before, inner, after, rfl, noBegin, noEnd, rfl, rfl⟩
    exact find_of_block noBegin noEnd

/-- The lines before a block, its own and those behind it. -/
theorem cut_of_block {before inner after : List (List Char)}
    (cut : lines = before ++ beginMarker key :: (inner ++ endMarker key :: after)) :
    lines.take before.length = before ∧
      lines.drop (before.length + inner.length + 1 + 1) = after ∧
      (lines.drop before.length).take (before.length + inner.length + 1 + 1 - before.length) =
        beginMarker key :: (inner ++ [endMarker key]) := by
  have whole : lines = before ++ ((beginMarker key :: (inner ++ [endMarker key])) ++ after) := by
    rw [cut]
    simp
  have length : (beginMarker key :: (inner ++ [endMarker key])).length = inner.length + 2 := by simp
  have behind : before.length + inner.length + 1 + 1 =
      (before ++ (beginMarker key :: (inner ++ [endMarker key]))).length := by
    rw [List.length_append, length]
    omega
  refine ⟨by rw [whole, List.take_left], ?_, ?_⟩
  · rw [behind, whole, ← List.append_assoc, List.drop_left]
  · have own : before.length + inner.length + 1 + 1 - before.length =
        (beginMarker key :: (inner ++ [endMarker key])).length := by
      rw [length]
      omega
    rw [own, whole, List.drop_left, List.take_left]

end StateMetrics.Block
