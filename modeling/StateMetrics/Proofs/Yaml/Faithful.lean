import StateMetrics.Proofs.Yaml.Apart
import StateMetrics.Proofs.Yaml.Numbers

/-!
# Printed values are told apart

Two values that print the same text in the same place are the same (`isTold`), so are two lists
(`items_append_inj`). The induction is on one of the values. What is written behind its dash or its
name shows whether it is a list, an object or neither; each item and each member ends where the next
line that is no deeper starts, and is told as a value by induction.
-/

namespace StateMetrics

namespace Yaml

/-! ## Values on one line -/

/-- The style and the text of a value that is neither a list nor an object with anything in it. -/
def leaf? : Json → Option (Style × List Char)
  | .null => some (.plain, "null".toList)
  | .bool true => some (.plain, "true".toList)
  | .bool false => some (.plain, "false".toList)
  | .number n => some (.plain, numberText n)
  | .str text => some (Style.ofText text.toList, text.toList)
  | .arr [] => some (.plain, "[]".toList)
  | .arr (_ :: _) => none
  | .obj [] => some (.plain, "\x7b\x7d".toList)
  | .obj (_ :: _) => none

variable {v w : Json} {style : Style} {text : List Char}

theorem value_of_leaf (leaf : leaf? v = some (style, text)) (place : Place) (indent : Nat) :
    value place indent v = ⟨' ' :: (style.written (indent + 2) text).text,
      (style.written (indent + 2) text).closed⟩ := by
  match v with
  | .null => cases leaf; rw [value]; rfl
  | .bool true => cases leaf; rw [value]; rfl
  | .bool false => cases leaf; rw [value]; rfl
  | .number n => cases leaf; rw [value]; rfl
  | .str text => cases leaf; rw [value]; rfl
  | .arr [] => cases leaf; rw [value]; rfl
  | .obj [] => cases leaf; rw [value]; rfl

/-- The text of a value on one line may be in the style that is chosen for it. -/
theorem fits_of_leaf (leaf : leaf? v = some (style, text)) : style.Fits text := by
  have word {text : List Char} (word : text.all isWord = true) (more : text.any (· ≠ '-') = true) :
      IsPlain text := (StandsPlain.of_all word more).isPlain
  match v with
  | .null => cases leaf; exact word (by decide) (by decide)
  | .bool true => cases leaf; exact word (by decide) (by decide)
  | .bool false => cases leaf; exact word (by decide) (by decide)
  | .number n => cases leaf; exact (standsPlain_numberText n).isPlain
  | .str text => cases leaf; exact Style.fits_ofText text.toList
  | .arr [] =>
    cases leaf
    exact ⟨⟨by simp [isBreak], by decide, by decide⟩, '[', [']'], rfl, by decide,
      fun special => absurd special (by decide)⟩
  | .obj [] =>
    cases leaf
    exact ⟨⟨by simp [isBreak], by decide, by decide⟩, '\x7b', ['\x7d'], rfl, by decide,
      fun special => absurd special (by decide)⟩

/-- The values that are always written as the same word. -/
def ofWord? (text : List Char) : Option Json :=
  [("null".toList, .null), ("true".toList, .bool true), ("false".toList, .bool false),
    ("[]".toList, .arr []), ("\x7b\x7d".toList, .obj [])].lookup text

theorem ofText_ne_plain_of_needsQuotes (quotes : needsQuotes text = true) :
    Style.ofText text ≠ .plain := by
  rw [Style.ofText_eq, quotes]
  split
  · split <;> decide
  · simp only [Bool.true_eq_false, false_and, if_false]
    split <;> decide

/-- No number is written as one of the words. -/
theorem ofWord?_numberText {n : Json.Number} (proper : n.IsProper) :
    ofWord? (numberText n) = none := by
  obtain ⟨c, rest, whole, starts⟩ := exists_numberText_eq proper
  have other : ∀ d ∈ ['n', 't', 'f', '[', '\x7b'], (c == d) = false := by
    intro d mem
    have free : ∀ d ∈ ['n', 't', 'f', '[', '\x7b'], ¬ (d = '-' ∨ d.isDigit = true) := by
      simp [Char.isDigit]
    exact beq_eq_false_iff_ne.2 fun same => free d mem (same ▸ starts)
  simp only [List.forall_mem_cons] at other
  rw [whole]
  simp [ofWord?, List.lookup_cons, other]

/-- A value on one line is a string in its style, or a word that no string is written as: the one of
a number, or one of its own. -/
theorem leaf_cases (proper : v.IsProper) (leaf : leaf? v = some (style, text)) :
    (∃ s, v = .str s ∧ text = s.toList ∧ Style.ofText text = style) ∨
      Style.ofText text ≠ style ∧
        (ofWord? text = some v ∨
          ofWord? text = none ∧ ∃ n, v = .number n ∧ n.IsProper ∧ text = numberText n) := by
  match v, proper with
  | .null, _ => cases leaf; exact .inr ⟨by decide, .inl rfl⟩
  | .bool true, _ => cases leaf; exact .inr ⟨by decide, .inl rfl⟩
  | .bool false, _ => cases leaf; exact .inr ⟨by decide, .inl rfl⟩
  | .number n, .number proper =>
    cases leaf
    exact .inr ⟨ofText_ne_plain_of_needsQuotes (needsQuotes_numberText proper),
      .inr ⟨ofWord?_numberText proper, n, rfl, proper, rfl⟩⟩
  | .str s, _ => cases leaf; exact .inl ⟨s, rfl, rfl, rfl⟩
  | .arr [], _ => cases leaf; exact .inr ⟨by decide, .inl rfl⟩
  | .obj [], _ => cases leaf; exact .inr ⟨by decide, .inl rfl⟩

/-- A value on one line is told by its style and its text: a string is quoted where it would be read
as a number or a word. -/
theorem leaf_injective (proper : v.IsProper) (proper' : w.IsProper)
    (leaf : leaf? v = some (style, text)) (leaf' : leaf? w = some (style, text)) : v = w := by
  rcases leaf_cases proper leaf with ⟨s, rfl, whole, isText⟩ | ⟨isWord, word⟩
  · rcases leaf_cases proper' leaf' with ⟨s', rfl, whole', -⟩ | ⟨isWord', -⟩
    · rw [String.toList_inj.1 (whole.symm.trans whole')]
    · exact absurd isText isWord'
  · rcases leaf_cases proper' leaf' with ⟨s', rfl, whole', isText'⟩ | ⟨-, word'⟩
    · exact absurd isText' isWord
    · rcases word with own | ⟨wordless, n, rfl, proper, digits⟩
      · rcases word' with own' | ⟨wordless', -⟩
        · exact Option.some.inj (own.symm.trans own')
        · rw [wordless'] at own
          cases own
      · rcases word' with own' | ⟨-, m, rfl, proper', digits'⟩
        · rw [wordless] at own'
          cases own'
        · rw [numberText_injective proper proper' (digits.symm.trans digits')]

/-! ## What stands behind a value -/

/-- The next line behind the items of a list at a column: it is no deeper than they are, and no
further item of them. -/
structure EndsItems (column k : Nat) (next : List Char) : Prop where
  shows : Shows next
  left : k ≤ column
  noItem : k = column → ∀ rest, next ≠ '-' :: ' ' :: rest

theorem EndsItems.of_lt {column k : Nat} {next : List Char} (shows : Shows next)
    (less : k < column) : EndsItems column k next :=
  ⟨shows, Nat.le_of_lt less, fun same => absurd same (Nat.ne_of_lt less)⟩

/-- The next line behind a value at some indentation. Only behind a name the items of a list may be
as deep as it is. -/
structure EndsValue (place : Place) (indent k : Nat) (next : List Char) : Prop where
  shows : Shows next
  left : k ≤ indent
  endsItems : place = .afterName → EndsItems indent k next

theorem EndsItems.endsValue {column k : Nat} {next : List Char} (ends : EndsItems column k next)
    (place : Place) : EndsValue place column k next := ⟨ends.shows, ends.left, fun _ => ends⟩

theorem EndsValue.follows {place : Place} {indent k : Nat} {next : List Char}
    (ends : EndsValue place indent k next) (style : Style) (closed : Bool) :
    style.Follows (indent + 2) closed (lineStart closed k ++ next) :=
  .inl ⟨k, next, by have left := ends.left; omega, ends.shows, rfl⟩

/-- The value is told from any other by its text, with what stands behind it. -/
def IsTold (v : Json) : Prop :=
  ∀ (w : Json) (place : Place) (indent k k' : Nat) (next next' : List Char), w.IsProper →
    EndsValue place indent k next → EndsValue place indent k' next' →
    (value place indent v).text ++ (lineStart (value place indent v).closed k ++ next) =
      (value place indent w).text ++ (lineStart (value place indent w).closed k' ++ next') →
    v = w ∧ k = k' ∧ next = next'

/-! ## Items -/

theorem exists_value_inline_eq (indent : Nat) (v : Json) :
    ∃ rest, (value .inline indent v).text = ' ' :: rest := by
  cases leaf : leaf? v with
  | some pair => exact ⟨_, by rw [value_of_leaf leaf]⟩
  | none =>
    match v with
    | .arr (_ :: _) => rw [value]; exact ⟨_, rfl⟩
    | .obj ((_, _) :: _) => rw [value]; exact ⟨_, rfl⟩

/-- Behind an item the next line is no deeper than it is. -/
theorem exists_items_eq {column k : Nat} {next : List Char} (ends : EndsItems column k next)
    (closed : Bool) (list : List Json) : ∃ k₁ next₁, EndsValue .inline column k₁ next₁ ∧
      (items column closed list).text ++ (lineStart (items column closed list).closed k ++ next) =
        lineStart closed k₁ ++ next₁ := by
  cases list with
  | nil =>
    rw [items]
    exact ⟨k, next, ends.endsValue .inline, rfl⟩
  | cons v list =>
    rw [items]
    refine ⟨column, _, ⟨Spot.shows_of_indicator (.inl rfl) _, Nat.le_refl column,
      fun behindName => absurd behindName (by decide)⟩, List.append_assoc _ _ _⟩

theorem items_cons_ne {column k : Nat} {next : List Char} (ends : EndsItems column k next)
    (closed : Bool) (v : Json) (list : List Json) (behind : List Char) :
    (items column closed (v :: list)).text ++ behind ≠ lineStart closed k ++ next := by
  obtain ⟨rest, space⟩ := exists_value_inline_eq column v
  rw [items, space]
  simp only [List.append_assoc, List.cons_append]
  intro same
  obtain ⟨rfl, rfl⟩ := lineStart_append_inj (Spot.shows_of_indicator (.inl rfl) _) ends.shows same
  exact ends.noItem rfl _ rfl

/-- A list is told by its items, if each of them is told, and by what ends it. -/
theorem items_append_inj {list list' : List Json} (each : ∀ v ∈ list, IsTold v)
    (proper' : ∀ w ∈ list', w.IsProper) {closed : Bool} {column k k' : Nat} {next next' : List Char}
    (ends : EndsItems column k next) (ends' : EndsItems column k' next')
    (same : (items column closed list).text ++
        (lineStart (items column closed list).closed k ++ next) =
      (items column closed list').text ++
        (lineStart (items column closed list').closed k' ++ next')) :
    list = list' ∧ k = k' ∧ next = next' := by
  induction list generalizing list' closed with
  | nil =>
    cases list' with
    | nil =>
      rw [items] at same
      exact ⟨rfl, lineStart_append_inj ends.shows ends'.shows same⟩
    | cons w list' =>
      refine absurd same.symm ?_
      rw [items]
      exact items_cons_ne ends closed w list' _
  | cons v list ih =>
    cases list' with
    | nil =>
      refine absurd same ?_
      rw [items]
      exact items_cons_ne ends' closed v list _
    | cons w list' =>
      obtain ⟨told, others⟩ := List.forall_mem_cons.1 each
      obtain ⟨proper, propers⟩ := List.forall_mem_cons.1 proper'
      obtain ⟨k₁, next₁, ends₁, whole⟩ := exists_items_eq ends (value .inline column v).closed list
      obtain ⟨k₂, next₂, ends₂, whole'⟩ := exists_items_eq ends' (value .inline column w).closed
        list'
      rw [items, items] at same
      simp only [List.append_assoc, List.cons_append] at same
      have behind := (List.cons.inj (List.append_cancel_left same)).2
      rw [whole, whole'] at behind
      obtain ⟨rfl, rfl, rfl⟩ := told w .inline column k₁ k₂ next₁ next₂ proper ends₁ ends₂ behind
      obtain ⟨rfl, last⟩ := ih others propers (whole.trans whole'.symm)
      exact ⟨rfl, last⟩

/-! ## Members -/

/-- A scalar does not start as an item does, nor as a name behind a question mark. -/
theorem Style.written_append_ne {style : Style} {text : List Char} (fits : style.Fits text)
    {c d : Char} (mark : c ∈ ['-', '?']) (separates : isSeparator d = true) (indent : Nat)
    (x y : List Char) : (style.written indent text).text ++ x ≠ c :: d :: y := by
  intro same
  cases style with
  | plain =>
    obtain ⟨e, rest, rfl, -, starts⟩ := fits.starts
    obtain ⟨rfl, following⟩ := List.cons.inj same
    obtain ⟨f, more, rfl, inside⟩ := starts mark
    rw [(List.cons.inj following).1, separates] at inside
    cases inside
  | singleQuoted => exact absurd ((List.cons.inj same).1 ▸ mark) (by decide)
  | doubleQuoted => exact absurd ((List.cons.inj same).1 ▸ mark) (by decide)
  | literal => exact absurd ((List.cons.inj same).1 ▸ mark) (by decide)

theorem entry_append_ne (column : Nat) (name : String) (v : Json) (x y : List Char) :
    (entry column name v).text ++ x ≠ '-' :: ' ' :: y := by
  rw [entry]
  cases isSimpleName name with
  | true =>
    rw [if_pos rfl, scalar_eq_written, List.append_assoc]
    exact Style.written_append_ne (Style.fits_ofText _) (by decide) (by decide) _ _ _
  | false =>
    rw [if_neg Bool.false_ne_true]
    exact fun same => absurd (List.cons.inj same).1 (by decide)

/-- A name in front of its colon follows its style. -/
theorem follows_of_separated {style : Style} (inLine : style ≠ .literal) (indent : Nat)
    (closed : Bool) {text : List Char} (separated : Spot.Separated text) :
    style.Follows indent closed (':' :: text) := by
  obtain ⟨c, rest, rfl, space | newline⟩ := separated
  · exact .inr ⟨inLine, c, rest, rfl, by rw [space]; decide⟩
  · exact .inr ⟨inLine, c, rest, rfl, by rw [newline]; decide⟩

/-- A member is told by its name and its value, if that is told. -/
theorem entry_append_inj {name name' : String} {v w : Json} (told : IsTold v) (proper : w.IsProper)
    {column k k' : Nat} {next next' : List Char} (ends : EndsItems column k next)
    (ends' : EndsItems column k' next')
    (same : (entry column name v).text ++ (lineStart (entry column name v).closed k ++ next) =
      (entry column name' w).text ++ (lineStart (entry column name' w).closed k' ++ next')) :
    name = name' ∧ v = w ∧ k = k' ∧ next = next' := by
  have fits (text : String) := Style.fits_ofText text.toList
  rw [entry, entry] at same
  cases simple : isSimpleName name with
  | true =>
    cases simple' : isSimpleName name' with
    | true =>
      rw [simple, simple', if_pos rfl, if_pos rfl, scalar_eq_written, scalar_eq_written] at same
      simp only [List.append_assoc, List.cons_append] at same
      obtain ⟨-, names, behind⟩ := Style.written_append_inj (fits name) (fits name')
        (follows_of_separated (Style.ofText_ne_literal simple) _ _ (separated_value ..))
        (follows_of_separated (Style.ofText_ne_literal simple') _ _ (separated_value ..)) same
      obtain ⟨rfl, last⟩ := told w .afterName column k k' next next' proper
        (ends.endsValue _) (ends'.endsValue _) (List.cons.inj behind).2
      exact ⟨String.toList_inj.1 names, rfl, last⟩
    | false =>
      rw [simple, simple', if_pos rfl, if_neg Bool.false_ne_true, scalar_eq_written,
        List.append_assoc] at same
      exact absurd same (Style.written_append_ne (fits name) (by decide) (by decide) _ _ _)
  | false =>
    cases simple' : isSimpleName name' with
    | true =>
      replace same := same.symm
      rw [simple, simple', if_pos rfl, if_neg Bool.false_ne_true, scalar_eq_written,
        List.append_assoc] at same
      exact absurd same (Style.written_append_ne (fits name') (by decide) (by decide) _ _ _)
    | false =>
      rw [simple, simple', if_neg Bool.false_ne_true, if_neg Bool.false_ne_true, scalar_eq_written,
        scalar_eq_written] at same
      simp only [List.append_assoc, List.cons_append] at same
      have behind := (List.cons.inj (List.cons.inj same).2).2
      have colon (style : Style) (closed : Bool) (x : List Char) :
          style.Follows (column + 2) closed (lineStart closed column ++ ':' :: x) :=
        .inl ⟨column, _, by omega, Spot.shows_of_indicator (.inr (.inr rfl)) _, rfl⟩
      obtain ⟨-, names, values⟩ := Style.written_append_inj (fits name) (fits name') (colon _ _ _)
        (colon _ _ _) behind
      obtain rfl := String.toList_inj.1 names
      obtain ⟨rfl, last⟩ := told w .inline column k k' next next' proper (ends.endsValue _)
        (ends'.endsValue _) (List.cons.inj (List.append_cancel_left values)).2
      exact ⟨rfl, rfl, last⟩

/-- Behind a member the next line is no deeper than it is, and no item. -/
theorem exists_entries_eq {column k : Nat} {next : List Char} (shows : Shows next)
    (less : k < column) (closed : Bool) (members : List (String × Json)) :
    ∃ k₁ next₁, EndsItems column k₁ next₁ ∧
      (entries column closed members).text ++
          (lineStart (entries column closed members).closed k ++ next) =
        lineStart closed k₁ ++ next₁ := by
  match members with
  | [] =>
    rw [entries]
    exact ⟨k, next, .of_lt shows less, rfl⟩
  | (name, v) :: members =>
    rw [entries]
    simp only [List.append_assoc]
    refine ⟨column, _, ?_, rfl⟩
    exact ⟨shows_entry column name v _, Nat.le_refl column, fun _ rest =>
      entry_append_ne column name v _ rest⟩

theorem entries_cons_ne {column k : Nat} {next : List Char} (shows : Shows next) (less : k < column)
    (closed : Bool) (name : String) (v : Json) (members : List (String × Json))
    (behind : List Char) :
    (entries column closed ((name, v) :: members)).text ++ behind ≠ lineStart closed k ++ next := by
  rw [entries]
  simp only [List.append_assoc]
  intro same
  obtain ⟨rfl, -⟩ := lineStart_append_inj (shows_entry column name v _) shows same
  exact Nat.lt_irrefl _ less

/-- An object is told by its members, if each value is told, and by what ends it. -/
theorem entries_append_inj {members members' : List (String × Json)}
    (each : ∀ m ∈ members, IsTold m.2) (proper' : ∀ m ∈ members', m.2.IsProper) {closed : Bool}
    {column k k' : Nat} {next next' : List Char} (shows : Shows next) (shows' : Shows next')
    (less : k < column) (less' : k' < column)
    (same : (entries column closed members).text ++
        (lineStart (entries column closed members).closed k ++ next) =
      (entries column closed members').text ++
        (lineStart (entries column closed members').closed k' ++ next')) :
    members = members' ∧ k = k' ∧ next = next' := by
  induction members generalizing members' closed with
  | nil =>
    cases members' with
    | nil =>
      rw [entries] at same
      exact ⟨rfl, lineStart_append_inj shows shows' same⟩
    | cons m' members' =>
      refine absurd same.symm ?_
      rw [entries]
      exact entries_cons_ne shows less closed m'.1 m'.2 members' _
  | cons m members ih =>
    cases members' with
    | nil =>
      refine absurd same ?_
      rw [entries]
      exact entries_cons_ne shows' less' closed m.1 m.2 members _
    | cons m' members' =>
      obtain ⟨name, v⟩ := m
      obtain ⟨name', w⟩ := m'
      obtain ⟨told, others⟩ := List.forall_mem_cons.1 each
      obtain ⟨proper, propers⟩ := List.forall_mem_cons.1 proper'
      obtain ⟨k₁, next₁, ends₁, whole⟩ := exists_entries_eq shows less (entry column name v).closed
        members
      obtain ⟨k₂, next₂, ends₂, whole'⟩ := exists_entries_eq shows' less'
        (entry column name' w).closed members'
      rw [entries, entries] at same
      simp only [List.append_assoc] at same
      have behind := List.append_cancel_left same
      rw [whole, whole'] at behind
      obtain ⟨rfl, rfl, rfl, rfl⟩ := entry_append_inj told proper ends₁ ends₂ behind
      obtain ⟨rfl, last⟩ := ih others propers (whole.trans whole'.symm)
      exact ⟨rfl, last⟩

/-! ## Values -/

/-- How deep a list behind an indicator is. -/
def innerColumn (place : Place) (indent : Nat) : Nat :=
  if place = .inline then indent + 2 else indent

/-- What is in front of a list or an object: it starts on the line of its indicator or on the next.
-/
def lead (place : Place) (column : Nat) : List Char :=
  if place = .inline then [' '] else lineStart false column

/-- A list behind an indicator are its items, at their column. -/
theorem exists_value_arr_eq (place : Place) (indent : Nat) (item : Json) (list : List Json) :
    ∃ x, (value place indent (.arr (item :: list))).text =
        lead place (innerColumn place indent) ++ '-' :: ' ' :: x ∧
      (items (innerColumn place indent) true (item :: list)).text =
        spaces (innerColumn place indent) ++ '-' :: ' ' :: x ∧
      (value place indent (.arr (item :: list))).closed =
        (items (innerColumn place indent) true (item :: list)).closed := by
  obtain ⟨rest, space⟩ := exists_value_inline_eq (innerColumn place indent) item
  rw [innerColumn] at space
  rw [value, items, innerColumn, space]
  exact ⟨_, rfl, rfl, rfl⟩

/-- An object behind an indicator are its members, at their column. -/
theorem value_obj_eq (place : Place) (indent : Nat) (name : String) (v : Json)
    (members : List (String × Json)) :
    let behind := (entry (indent + 2) name v).text ++
      (entries (indent + 2) (entry (indent + 2) name v).closed members).text
    (value place indent (.obj ((name, v) :: members))).text = lead place (indent + 2) ++ behind ∧
      (entries (indent + 2) true ((name, v) :: members)).text = spaces (indent + 2) ++ behind ∧
      (value place indent (.obj ((name, v) :: members))).closed =
        (entries (indent + 2) true ((name, v) :: members)).closed := by
  rw [value, entries]
  exact ⟨List.append_assoc _ _ _, List.append_assoc _ _ _, rfl⟩

theorem EndsValue.endsItems_inner {place : Place} {indent k : Nat} {next : List Char}
    (ends : EndsValue place indent k next) : EndsItems (innerColumn place indent) k next := by
  cases place with
  | inline =>
    have left := ends.left
    exact .of_lt ends.shows (show k < indent + 2 by omega)
  | afterName => exact ends.endsItems rfl

theorem leaf_ne_arr (leaf : leaf? v = some (style, text)) (place : Place) (indent : Nat)
    (item : Json) (list : List Json) (x y : List Char) :
    (value place indent v).text ++ x ≠ (value place indent (.arr (item :: list))).text ++ y := by
  obtain ⟨rest, whole, -⟩ := exists_value_arr_eq place indent item list
  rw [value_of_leaf leaf, whole]
  intro same
  cases place with
  | inline =>
    exact Style.written_append_ne (fits_of_leaf leaf) (by decide) (by decide) _ _ _
      (List.cons.inj same).2
  | afterName => exact absurd (List.cons.inj same).1 (by decide)

/-- A name in front of its colon is on one line, however deep. -/
theorem written_of_isSimpleName {name : String} (simple : isSimpleName name = true) (a b : Nat) :
    (Style.ofText name.toList).written a name.toList =
      (Style.ofText name.toList).written b name.toList := by
  have inside := (isSimpleName_spec simple).1
  cases style : Style.ofText name.toList with
  | plain => rfl
  | singleQuoted =>
    rw [Style.written, Style.written, singleQuoted_eq inside, singleQuoted_eq inside]
  | doubleQuoted => rfl
  | literal => exact absurd style (Style.ofText_ne_literal simple)

theorem closed_written (inLine : style ≠ .literal) (indent : Nat) (text : List Char) :
    (style.written indent text).closed = false := by
  cases style with
  | literal => exact absurd rfl inLine
  | _ => rfl

/-- A name is followed by a colon, a value on one line is not. -/
theorem leaf_ne_obj (leaf : leaf? v = some (style, text)) {place : Place} {indent k : Nat}
    {next : List Char} (ends : EndsValue place indent k next) (name : String) (w : Json)
    (members : List (String × Json)) (y : List Char) :
    (value place indent v).text ++ (lineStart (value place indent v).closed k ++ next) ≠
      (value place indent (.obj ((name, w) :: members))).text ++ y := by
  obtain ⟨whole, -⟩ := value_obj_eq place indent name w members
  rw [value_of_leaf leaf, whole, List.append_assoc, List.append_assoc]
  intro same
  cases place with
  | afterName => exact absurd (List.cons.inj same).1 (by decide)
  | inline =>
    have fits := fits_of_leaf leaf
    obtain ⟨z, same⟩ : ∃ z, (style.written (indent + 2) text).text ++
        (lineStart (style.written (indent + 2) text).closed k ++ next) =
          (entry (indent + 2) name w).text ++ z := ⟨_, (List.cons.inj same).2⟩
    rw [entry] at same
    cases simple : isSimpleName name with
    | true =>
      rw [simple, if_pos rfl, scalar_eq_written,
        written_of_isSimpleName simple _ (indent + 2)] at same
      simp only [List.append_assoc, List.cons_append] at same
      have inLine := Style.ofText_ne_literal simple
      obtain ⟨rfl, -, behind⟩ := Style.written_append_inj fits (Style.fits_ofText name.toList)
        (ends.follows _ _) (follows_of_separated inLine _ _ (separated_value ..)) same
      rw [closed_written inLine] at behind
      exact absurd (List.cons.inj behind).1 (by decide)
    | false =>
      rw [simple, if_neg Bool.false_ne_true] at same
      exact Style.written_append_ne fits (by decide) (by decide) _ _ _ same

/-- A list and an object, neither of them empty, start differently. -/
theorem arr_ne_obj (place : Place) (indent : Nat) (item : Json) (list : List Json) (name : String)
    (w : Json) (members : List (String × Json)) (x y : List Char) :
    (value place indent (.arr (item :: list))).text ++ x ≠
      (value place indent (.obj ((name, w) :: members))).text ++ y := by
  obtain ⟨rest, whole, -⟩ := exists_value_arr_eq place indent item list
  obtain ⟨whole', -⟩ := value_obj_eq place indent name w members
  rw [whole, whole', List.append_assoc, List.append_assoc, List.append_assoc]
  intro same
  cases place with
  | inline => exact entry_append_ne _ _ _ _ _ (List.cons.inj same).2.symm
  | afterName =>
    replace same : lineStart false indent ++ '-' :: (' ' :: (rest ++ x)) =
      lineStart false (indent + 2) ++ _ := same
    have columns : indent = indent + 2 := (lineStart_append_inj
      (Spot.shows_of_indicator (.inl rfl) _) (shows_entry _ _ _ _) same).1
    omega

/-- A value is on one line, or a list, or an object. -/
theorem shape_cases (v : Json) : (∃ style text, leaf? v = some (style, text)) ∨
    (∃ item list, v = .arr (item :: list)) ∨ ∃ name w members, v = .obj ((name, w) :: members) := by
  match v with
  | .null | .bool true | .bool false | .number _ | .str _ | .arr [] | .obj [] =>
    exact .inl ⟨_, _, rfl⟩
  | .arr (item :: list) => exact .inr (.inl ⟨item, list, rfl⟩)
  | .obj ((name, w) :: members) => exact .inr (.inr ⟨name, w, members, rfl⟩)

/-- A value on one line is told from any other, those of many lines included. -/
theorem isTold_of_leaf (proper : v.IsProper) (leaf : leaf? v = some (style, text)) : IsTold v := by
  intro w place indent k k' next next' proper' ends ends' same
  rcases shape_cases w with ⟨style', text', leaf'⟩ | ⟨item, list, rfl⟩ | ⟨name, w, members, rfl⟩
  · rw [value_of_leaf leaf, value_of_leaf leaf'] at same
    obtain ⟨rfl, rfl, behind⟩ := Style.written_append_inj (fits_of_leaf leaf) (fits_of_leaf leaf')
      (ends.follows _ _) (ends'.follows _ _) (List.cons.inj same).2
    exact ⟨leaf_injective proper proper' leaf leaf',
      lineStart_append_inj ends.shows ends'.shows behind⟩
  · exact absurd same (leaf_ne_arr leaf place indent item list _ _)
  · exact absurd same (leaf_ne_obj leaf ends name w members _)

theorem append_of_append {a x y t t' : List Char} (b : List Char)
    (same : a ++ x ++ t = a ++ y ++ t') : b ++ x ++ t = b ++ y ++ t' := by
  rw [List.append_assoc, List.append_assoc] at same ⊢
  rw [List.append_cancel_left same]

theorem isTold_arr {item : Json} {list : List Json} (each : ∀ v ∈ item :: list, IsTold v) :
    IsTold (.arr (item :: list)) := by
  intro w place indent k k' next next' proper' ends ends' same
  rcases shape_cases w with ⟨style', text', leaf⟩ | ⟨item', list', rfl⟩ | ⟨name, w, members, rfl⟩
  · exact absurd same.symm (leaf_ne_arr leaf place indent item list _ _)
  · cases proper' with
    | arr propers =>
      obtain ⟨x, whole, columns, closed⟩ := exists_value_arr_eq place indent item list
      obtain ⟨x', whole', columns', closed'⟩ := exists_value_arr_eq place indent item' list'
      rw [whole, whole', closed, closed'] at same
      have lists := append_of_append (spaces (innerColumn place indent)) same
      rw [← columns, ← columns'] at lists
      obtain ⟨alike, last⟩ := items_append_inj each propers ends.endsItems_inner
        ends'.endsItems_inner lists
      exact ⟨congrArg Json.arr alike, last⟩
  · exact absurd same (arr_ne_obj place indent item list name w members _ _)

theorem isTold_obj {name : String} {v : Json} {members : List (String × Json)}
    (each : ∀ m ∈ (name, v) :: members, IsTold m.2) : IsTold (.obj ((name, v) :: members)) := by
  intro w place indent k k' next next' proper' ends ends' same
  rcases shape_cases w with ⟨style', text', leaf⟩ | ⟨item, list, rfl⟩ | ⟨name', w, members', rfl⟩
  · exact absurd same.symm (leaf_ne_obj leaf ends' name v members _)
  · exact absurd same.symm (arr_ne_obj place indent item list name v members _ _)
  · cases proper' with
    | obj propers =>
      have left := ends.left
      have left' := ends'.left
      obtain ⟨whole, columns, closed⟩ := value_obj_eq place indent name v members
      obtain ⟨whole', columns', closed'⟩ := value_obj_eq place indent name' w members'
      rw [whole, whole', closed, closed'] at same
      have lists := append_of_append (spaces (indent + 2)) same
      rw [← columns, ← columns'] at lists
      obtain ⟨alike, last⟩ := entries_append_inj each propers ends.shows ends'.shows
        (show k < indent + 2 by omega) (show k' < indent + 2 by omega) lists
      exact ⟨congrArg Json.obj alike, last⟩

/-- Every value with proper numbers is told by its text, by induction over the value. -/
theorem isTold (proper : v.IsProper) : IsTold v := by
  induction proper with
  | null => exact isTold_of_leaf .null rfl
  | bool value => cases value <;> exact isTold_of_leaf (.bool _) rfl
  | number proper => exact isTold_of_leaf (.number proper) rfl
  | str text => exact isTold_of_leaf (.str text) rfl
  | @arr items each ih =>
    cases items with
    | nil => exact isTold_of_leaf (.arr each) rfl
    | cons item list => exact isTold_arr ih
  | @obj members each ih =>
    cases members with
    | nil => exact isTold_of_leaf (.obj each) rfl
    | cons m members => exact isTold_obj ih

end Yaml

end StateMetrics
