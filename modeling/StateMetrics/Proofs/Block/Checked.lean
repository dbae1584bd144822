import StateMetrics.Proofs.Block.Extent

/-!
# Merging with every access checked

The merge takes lines out of a document by their numbers. Its functions never stop: a slice that is
out of range is cut short, and nothing less one is nothing. The functions here are the same, but they
stop with a fault where a slice is not inside the list, where a number would fall below nought, or
where it would pass the end of the list. They stop for no document, whatever markers it holds, and so
give what the merge gives (`checked_merge_eq`).
-/

namespace StateMetrics.Block

open Text

/-- Why an access is refused. -/
inductive Fault where
  /-- The lines are not all in the list, or the range is turned around. -/
  | slice (first last : Nat)
  /-- The number would be less than nought. -/
  | belowNought
  /-- There is no line of the number. -/
  | pastEnd
  deriving DecidableEq, Repr

/-- What a checked computation gives. -/
abbrev Checked (α : Type) := Except Fault α

/-- A number less another one. -/
def checkedSub (a b : Nat) : Checked Nat := if b ≤ a then .ok (a - b) else .error .belowNought

/-- The number of the line behind another one. -/
def checkedNext (lines : List (List Char)) (number : Nat) : Checked Nat :=
  if number + 1 < lines.length then .ok (number + 1) else .error .pastEnd

/-- The lines numbered `first` to `last`. A range may be empty, but not turned around further. -/
def checkedSlice (lines : List (List Char)) (first last : Nat) : Checked (List (List Char)) :=
  if first ≤ last + 1 ∧ last + 1 ≤ lines.length then .ok (slice lines first last)
  else .error (.slice first last)

/-- The lines from `start` to `stop` joined. -/
def checkedJoinRange (lines : List (List Char)) (start stop : Int) : Checked (List Char) :=
  if lines = [] then .ok []
  else do
    let last ← checkedSub lines.length 1
    let reachesLast := stop < 0 || (last : Int) ≤ stop
    let final := if reachesLast then last else stop.toNat
    if final < start.toNat then .ok []
    else do
      let range ← checkedSlice lines start.toNat final
      let text := joinLines range
      .ok (if reachesLast then dropTrailingNewlines text else withNewline text)

/-- The lines in front of the line `first`, joined. -/
def checkedBefore (lines : List (List Char)) (first : Nat) : Checked (List Char) :=
  if 0 < first then do
    let previous ← checkedSub first 1
    checkedJoinRange lines 0 previous
  else .ok []

/-- The lines behind the line `last`, joined. -/
def checkedBehind (lines : List (List Char)) (last : Nat) : Checked (List Char) := do
  let final ← checkedSub lines.length 1
  if last < final then do
    let next ← checkedNext lines last
    checkedJoinRange lines next (-1)
  else .ok []

/-- The document whose lines are `lines`, with `insert` in place of the lines `first` to `last`. -/
def checkedSplice (document : List Char) (lines : List (List Char)) (first last : Nat)
    (insert : List Char) : Checked (List Char) := do
  let before ← checkedBefore lines first
  let behind ← checkedBehind lines last
  let result := before ++ insert ++ behind
  .ok (if endsWithNewline document && result ≠ [] && !endsWithNewline result then result ++ ['\n']
    else result)

/-- Puts the block of `key` with `fragment` into the document. -/
def checkedUpsert (document key fragment : List Char) : Checked (Upsert (List Char)) :=
  let lines := splitLines document
  match find key lines with
  | some (first, last) => do
    let current ← checkedSlice lines first last
    if joinLines current ++ ['\n'] = render key fragment then .ok .unchanged
    else do
      let result ← checkedSplice document lines first last (render key fragment)
      .ok (.replaced result)
  | none => .ok (.appended (append document (render key fragment)))

/-- Takes the block of `key` out of the document. -/
def checkedRemove (document key : List Char) : Checked (Option (List Char)) :=
  let lines := splitLines document
  match find key lines with
  | some (first, last) => do
    let result ← checkedSplice document lines first last []
    .ok (some result)
  | none => .ok none

variable {lines : List (List Char)} {first last : Nat}

@[simp] theorem ok_bind {α β : Type} (value : α) (next : α → Checked β) :
    ((.ok value : Checked α) >>= next) = next value := rfl

/-- No number falls below nought where the lesser one is taken off. -/
theorem checkedSub_of_le {a b : Nat} (le : b ≤ a) : checkedSub a b = .ok (a - b) := if_pos le

theorem checkedNext_of_lt (more : last + 1 < lines.length) :
    checkedNext lines last = .ok (last + 1) :=
  if_pos more

theorem checkedSlice_of_le (order : first ≤ last) (inside : last < lines.length) :
    checkedSlice lines first last = .ok (slice lines first last) :=
  if_pos ⟨Nat.le_succ_of_le order, inside⟩

/-- Whatever range is asked for, none but lines of the list are taken. -/
theorem checkedJoinRange_eq (lines : List (List Char)) (start stop : Int) :
    checkedJoinRange lines start stop = .ok (joinRange lines start stop) := by
  rcases eq_or_ne lines [] with rfl | nonempty
  · simp [checkedJoinRange, joinRange]
  have pos : 1 ≤ lines.length := List.length_pos_iff.2 nonempty
  have inside : (if (decide (stop < 0) || decide (((lines.length - 1 : Nat) : Int) ≤ stop)) = true
      then lines.length - 1 else stop.toNat) < lines.length := by
    split
    · omega
    · next within =>
      simp only [Bool.or_eq_true, decide_eq_true_eq] at within
      omega
  simp only [checkedJoinRange, joinRange, if_neg nonempty, checkedSub_of_le pos, ok_bind]
  by_cases turned : (if (decide (stop < 0) || decide (((lines.length - 1 : Nat) : Int) ≤ stop)) = true
      then lines.length - 1 else stop.toNat) < start.toNat
  · rw [if_pos turned, if_pos turned]
  · rw [if_neg turned, if_neg turned, checkedSlice_of_le (Nat.not_lt.1 turned) inside, ok_bind]

/-- In front of the first line nothing is asked for, so nothing falls below nought. -/
theorem checkedBefore_eq (lines : List (List Char)) (first : Nat) :
    checkedBefore lines first =
      .ok (if 0 < first then joinRange lines 0 ((first : Int) - 1) else []) := by
  rw [checkedBefore]
  split
  · next nonzero =>
    have previous : ((first - 1 : Nat) : Int) = (first : Int) - 1 := by omega
    rw [checkedSub_of_le nonzero, ← previous]
    exact checkedJoinRange_eq ..
  · rfl

/-- Behind the last line nothing is asked for, so the end is not passed. -/
theorem checkedBehind_eq (nonempty : lines ≠ []) (last : Nat) :
    checkedBehind lines last =
      .ok (if last < lines.length - 1 then joinRange lines ((last : Int) + 1) (-1) else []) := by
  rw [checkedBehind, checkedSub_of_le (List.length_pos_iff.2 nonempty), ok_bind]
  split
  · next more =>
    rw [checkedNext_of_lt (by omega)]
    exact checkedJoinRange_eq ..
  · rfl

/-- Around any lines of a list that has lines at all nothing is refused. -/
theorem checkedSplice_eq (nonempty : lines ≠ []) (document : List Char) (first last : Nat)
    (insert : List Char) :
    checkedSplice document lines first last insert =
      .ok (splice document lines first last insert) := by
  rw [checkedSplice, checkedBefore_eq, checkedBehind_eq nonempty, splice, ok_bind, ok_bind]

/-- A list without lines has no last one. -/
example : checkedSplice [] [] 0 0 [] = .error .belowNought := rfl

/-- Nothing is refused: neither where any range of any lines is joined, nor where a block is put into
a document or taken out of it, whatever the document, the key and the fragment. -/
theorem checked_merge_eq :
    (∀ lines start stop, checkedJoinRange lines start stop = .ok (joinRange lines start stop)) ∧
    ∀ document key, checkedRemove document key = .ok (remove document key) ∧
      ∀ fragment, checkedUpsert document key fragment = .ok (upsert document key fragment) := by
  refine ⟨checkedJoinRange_eq, fun document key => ⟨?_, fun fragment => ?_⟩⟩
  · rw [checkedRemove, remove]
    cases find key (splitLines document) with
    | none => rfl
    | some place =>
      simp only [Option.map_some, checkedSplice_eq (splitLines_ne_nil document), ok_bind]
  · rw [checkedUpsert, upsert]
    cases found : find key (splitLines document) with
    | none => rfl
    | some place =>
      obtain ⟨first, last⟩ := place
      obtain ⟨order, inside, -⟩ := bounds_of_find found
      simp only [checkedSlice_of_le (Nat.le_of_lt order) inside,
        checkedSplice_eq (splitLines_ne_nil document), ok_bind]
      split <;> rfl

end StateMetrics.Block
