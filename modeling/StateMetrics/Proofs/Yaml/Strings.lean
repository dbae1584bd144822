import Mathlib.Data.String.Basic
import StateMetrics.Proofs.Yaml.Scan

/-!
# Printed strings and numbers are read back

A string is written in the style that suits it, a name too, and a number as a word: each is one
token, with the text that was written.
-/

namespace StateMetrics.Yaml

/-- The token of a string: plain or not, as it is written. -/
def scalarToken (text : List Char) : Token := .scalar text (Style.ofText text = .plain)

/-! ## Strings -/

/-- Which style a text is given, by the checks in the order they are made. -/
theorem Style.ofText_eq (text : List Char) : Style.ofText text =
    if '\n' ∈ text then if admitsLiteral text then .literal else .doubleQuoted
    else if needsQuotes text = false ∧ admitsPlain text = true then .plain
    else if admitsSingleQuoted text then .singleQuoted else .doubleQuoted := by
  simp only [ofText, List.contains_iff_mem]
  cases needsQuotes text <;> cases admitsPlain text <;> simp

/-- What is written plain may stand plain. -/
theorem Style.plain_spec {text : List Char} (style : Style.ofText text = .plain) :
    StandsPlain text := by
  rw [ofText_eq] at style
  split at style
  · split at style <;> cases style
  · split at style
    · next plain =>
      refine .of_admitsPlain ?_ plain.2
      rintro rfl
      exact absurd plain.1 (by decide)
    · split at style <;> cases style

theorem Style.singleQuoted_spec {text : List Char} (style : Style.ofText text = .singleQuoted) :
    '\n' ∉ text ∧ ∀ c ∈ text, isPrintable c = true := by
  rw [ofText_eq] at style
  split at style
  · split at style <;> cases style
  · next free =>
    split at style
    · cases style
    · split at style
      · next admits =>
        refine ⟨free, fun c mem => ?_⟩
        simp only [admitsSingleQuoted, hasUnprintable, Bool.not_eq_true', Bool.or_eq_false_iff,
          List.any_eq_false] at admits
        simpa using admits.2 c mem
      · cases style

/-- What is written as a literal block has a line end, and no space in front of one or at its end. -/
theorem Style.literal_spec {text : List Char} (style : Style.ofText text = .literal) :
    '\n' ∈ text ∧ (∀ c ∈ text, isPrintable c = true) ∧ text.getLast? ≠ some ' ' ∧
      adjacent (· = ' ') isBreak text = false := by
  rw [ofText_eq] at style
  split at style
  · next newline =>
    split at style
    · next admits =>
      simp only [admitsLiteral, hasUnprintable, hasSpaceBeforeBreak, Bool.not_eq_true',
        Bool.or_eq_false_iff, List.any_eq_false, decide_eq_false_iff_not] at admits
      obtain ⟨⟨⟨-, last⟩, tidy⟩, printable⟩ := admits
      exact ⟨newline, fun c mem => by simpa using printable c mem, last, tidy⟩
    · cases style
  · split at style
    · cases style
    · split at style <;> cases style

theorem mem_singleQuotedBody {c : Char} {text : List Char} (mem : c ∈ text) (indent : Nat)
    (afterBreak : Bool) : c ∈ singleQuotedBody indent afterBreak text := by
  induction text generalizing afterBreak with
  | nil => cases mem
  | cons d text ih =>
    rw [singleQuotedBody]
    rcases List.mem_cons.1 mem with rfl | inside
    · split
      · exact List.mem_cons_self
      · split <;> simp
    · split
      · exact List.mem_cons_of_mem _ (ih inside afterBreak)
      · split
        · simp [ih inside true]
        · simp [ih inside false]

theorem mem_literalBody {c : Char} {text : List Char} (mem : c ∈ text) (indent : Nat)
    (afterBreak : Bool) : c ∈ literalBody indent afterBreak text := by
  induction text generalizing afterBreak with
  | nil => cases mem
  | cons d text ih =>
    rw [literalBody]
    rcases List.mem_cons.1 mem with rfl | inside
    · split <;> simp
    · split
      · exact List.mem_cons_of_mem _ (ih inside true)
      · simp [ih inside false]

/-- A string in single quotes stands on one line. -/
theorem isBreak_of_singleQuoted {text : List Char} (style : Style.ofText text = .singleQuoted)
    {indent : Nat} (only : OnlyNewlines (singleQuoted indent text)) :
    ∀ c ∈ text, isBreak c = false := by
  intro c mem
  refine Bool.eq_false_iff.2 fun ends => (Style.singleQuoted_spec style).1 ?_
  have written : c ∈ singleQuoted indent text :=
    List.mem_cons_of_mem _ (List.mem_append_left _ (mem_singleQuotedBody mem indent false))
  rw [← only c written ends]
  exact mem

theorem singleQuoted_eq {text : List Char} (inside : ∀ c ∈ text, isBreak c = false)
    (indent : Nat) : singleQuoted indent text = Spot.quoted false text := by
  rw [singleQuoted, singleQuotedBody_eq inside]
  rfl

theorem doubleQuoted_eq (text : List Char) : doubleQuoted text = Spot.quoted true text := rfl

/-- A string is no filler, in any style. -/
theorem shows_scalar (indent : Nat) (text rest : List Char) :
    Shows ((scalar indent text).text ++ rest) := by
  rw [scalar]
  cases style : Style.ofText text with
  | plain => exact (Style.plain_spec style).shows rest
  | singleQuoted => exact .cons (by decide) (by decide) (by decide) (by decide) _
  | doubleQuoted => exact .cons (by decide) (by decide) (by decide) (by decide) _
  | literal => exact .cons (by decide) (by decide) (by decide) (by decide) _

namespace Spot

/-- A string is read as the value it is. -/
theorem reads_scalar {text : List Char} {around column column' : Nat} {outer : List Int}
    {allowed : Bool} {next : List Char} (only : OnlyNewlines (scalar (around + 2) text).text)
    (right : around < column) (shows : Shows next) (left : column' ≤ around) :
    Reads ⟨around, outer, allowed, column, (scalar (around + 2) text).text ++
        (lineStart (scalar (around + 2) text).closed column' ++ next)⟩
      [scalarToken text] ⟨around, outer, true, column', next⟩ := by
  have right' : (around : Int) < column := Int.ofNat_lt.2 right
  have left' : (column' : Int) ≤ around := Int.ofNat_le.2 left
  rw [scalar] at only ⊢
  rw [scalarToken]
  cases style : Style.ofText text with
  | plain =>
    exact .plainValue (Style.plain_spec style) right' (Nat.zero_lt_of_lt right) shows left'
  | singleQuoted =>
    rw [style] at only
    have inside := isBreak_of_singleQuoted style only
    rw [singleQuoted_eq inside]
    exact .quotedValue (fun _ c mem => ⟨(Style.singleQuoted_spec style).2 c mem, inside c mem⟩)
      right' shows column'
  | doubleQuoted =>
    rw [doubleQuoted_eq]
    exact .quotedValue (fun never => by cases never) right' shows column'
  | literal =>
    rw [style] at only
    obtain ⟨newline, printable, -⟩ := Style.literal_spec style
    refine .literalValue (List.ne_nil_of_mem newline) printable (fun c mem ends => only c ?_ ends)
      right shows left
    simp [literal, mem_literalBody mem]

end Spot

/-! ## Names -/

open Spot

theorem length_quotedChar_le (double : Bool) (c : Char) :
    (quotedChar double c).length ≤ 4 * c.utf8Size := by
  have positive := c.utf8Size_pos
  cases double with
  | true =>
    rcases doubleQuotedChar_cases c with ⟨same, -⟩ | ⟨written, same, escapes⟩
    · rw [quotedChar, if_pos rfl, same, List.length_singleton]
      omega
    · rw [quotedChar, if_pos rfl, same]
      exact escapes.short
  | false =>
    rw [quotedChar, if_neg Bool.false_ne_true, singleQuotedChar]
    split <;> simp <;> omega

/-- A text in quotes has at most four characters for each byte of its encoding, besides the quotes. -/
theorem length_quoted_le (double : Bool) (text : List Char) :
    (quoted double text).length ≤ 4 * String.utf8Len text + 2 := by
  have inner : (text.flatMap (quotedChar double)).length ≤ 4 * String.utf8Len text := by
    induction text with
    | nil => exact Nat.le_refl 0
    | cons c text ih =>
      have first := length_quotedChar_le double c
      rw [List.flatMap_cons, List.length_append, String.utf8Len_cons]
      omega
  simp only [quoted, List.length_cons, List.length_append, List.length_nil]
  omega

theorem length_le_utf8Len (text : List Char) : text.length ≤ String.utf8Len text := by
  induction text with
  | nil => exact Nat.le_refl 0
  | cons c text ih =>
    have positive := c.utf8Size_pos
    rw [List.length_cons, String.utf8Len_cons]
    omega

theorem isSimpleName_spec {name : String} (simple : isSimpleName name = true) :
    (∀ c ∈ name.toList, isBreak c = false) ∧ String.utf8Len name.toList ≤ maxSimpleName := by
  simp only [isSimpleName, Bool.and_eq_true, Bool.not_eq_true', List.any_eq_false,
    decide_eq_true_eq] at simple
  refine ⟨fun c mem => by simpa using simple.1 c mem, ?_⟩
  rw [← String.utf8ByteSize_ofList, String.ofList_toList]
  exact simple.2

/-- No name in front of its colon is a literal block. -/
theorem Style.ofText_ne_literal {name : String} (simple : isSimpleName name = true) :
    Style.ofText name.toList ≠ .literal := fun style => by
  have newline := (isSimpleName_spec simple).1 '\n' (Style.literal_spec style).1
  cases newline

/-- A simple name stays on its line. -/
theorem closed_scalar_of_isSimpleName {name : String} (simple : isSimpleName name = true)
    (indent : Nat) : (scalar indent name.toList).closed = false := by
  rw [scalar]
  cases style : Style.ofText name.toList with
  | literal => exact absurd style (Style.ofText_ne_literal simple)
  | _ => rfl

/-- A name in front of its colon is read as the name it is: in any style it is short enough. -/
theorem Spot.reads_name {name : String} (simple : isSimpleName name = true) {indent : Int}
    {outer : List Int} {column : Nat} {text : List Char} (right : indent ≤ column)
    (positive : 0 < column) (separated : Separated text) (inner : Nat) :
    Reads ⟨indent, outer, true, column, (scalar inner name.toList).text ++ ':' :: text⟩
      (opening .blockMap indent column ++ [.name, scalarToken name.toList, .value])
      ⟨column, enclosing indent outer column, false,
        column + (scalar inner name.toList).text.length + 1, text⟩ := by
  obtain ⟨inside, bytes⟩ := isSimpleName_spec simple
  have long : 4 * maxSimpleName + 2 ≤ maxNameLength := by decide
  have quotes (double : Bool) : (quoted double name.toList).length ≤ maxNameLength := by
    have length := length_quoted_le double name.toList
    omega
  have short : name.toList.length ≤ maxNameLength := by
    have length := length_le_utf8Len name.toList
    omega
  rw [scalar, scalarToken]
  cases style : Style.ofText name.toList with
  | plain =>
    exact .plainName (Style.plain_spec style) short right (fun _ _ => .inl positive) separated
  | singleQuoted =>
    rw [singleQuoted_eq inside]
    exact .quotedName (fun _ c mem => ⟨(Style.singleQuoted_spec style).2 c mem, inside c mem⟩)
      (quotes false) right separated
  | doubleQuoted =>
    rw [doubleQuoted_eq]
    exact .quotedName (fun never => by cases never) (quotes true) right separated
  | literal => exact absurd style (Style.ofText_ne_literal simple)

/-! ## Numbers -/

theorem isWord_of_isDigit {c : Char} (digit : c.isDigit = true) : isWord c = true := by
  simp [isWord, digit]

theorem isWord_toDigits {n : Nat} {c : Char} (mem : c ∈ Nat.toDigits 10 n) : isWord c = true :=
  isWord_of_isDigit (Nat.isDigit_of_mem_toDigits (by decide) (by decide) mem)

theorem isWord_zeros {count : Nat} {c : Char} (mem : c ∈ List.replicate count '0') :
    isWord c = true := by
  rw [List.eq_of_mem_replicate mem]
  decide

theorem isWord_shortest (x : Binary64) : ∀ c ∈ x.shortest.1, isWord c = true := by
  rw [Binary64.shortest]
  cases found : (List.range 17).findSome? fun i =>
      (x.shortestOf (i + 1)).map (Binary64.DecimalDigits.trim (i + 1)) with
  | none => exact List.all_eq_true.1 (by decide)
  | some pair =>
    obtain ⟨i, -, trimmed⟩ := List.exists_of_findSome?_eq_some found
    obtain ⟨decimal, -, rfl⟩ := Option.map_eq_some_iff.1 trimmed
    intro c mem
    have kept : c ∈ ((Nat.toDigits 10 decimal.digits).reverse.dropWhile (· = '0')).reverse := mem
    exact isWord_toDigits
      (List.mem_reverse.1 ((List.dropWhile_sublist _).subset (List.mem_reverse.1 kept)))

/-- A laid out number is a word with a point or an exponent. -/
theorem magnitude_spec {digits : List Char} (word : ∀ c ∈ digits, isWord c = true) (point : Int) :
    (∀ c ∈ numberLayout.magnitude digits point, isWord c = true) ∧
      ∃ c ∈ numberLayout.magnitude digits point, c ≠ '-' := by
  have pointZero : ∀ c ∈ ".0".toList, isWord c = true :=
    List.all_eq_true.1 (by decide)
  have zeroPoint : ∀ c ∈ "0.".toList, isWord c = true :=
    List.all_eq_true.1 (by decide)
  rw [Decimal.Layout.magnitude.eq_def]
  simp only []
  split
  · refine ⟨?_, '0', List.mem_append_right _ (by decide), by decide⟩
    simp only [List.forall_mem_append]
    exact ⟨⟨word, fun c => isWord_zeros⟩, pointZero⟩
  · split
    · refine ⟨?_, '.', List.mem_append_right _ List.mem_cons_self, by decide⟩
      simp only [List.forall_mem_append, List.forall_mem_cons]
      exact ⟨fun c mem => word c (List.mem_of_mem_take mem), by decide,
        fun c mem => word c (List.mem_of_mem_drop mem)⟩
    · split
      · refine ⟨?_, '0', List.mem_append_left _ (List.mem_append_left _ (by decide)), by decide⟩
        simp only [List.forall_mem_append]
        exact ⟨⟨zeroPoint, fun c => isWord_zeros⟩, word⟩
      · have exponent : ∀ c ∈ 'e' :: (if point - 1 < 0 then ['-']
            else if numberLayout.plusSign then ['+'] else []) ++
            Nat.toDigits 10 (point - 1).natAbs, isWord c = true := by
          simp only [List.forall_mem_append, List.forall_mem_cons]
          refine ⟨⟨by decide, ?_⟩, fun c => isWord_toDigits⟩
          split
          · exact List.all_eq_true.1 (by decide)
          · exact List.all_eq_true.1 (by decide)
        refine ⟨?_, 'e', by simp, by decide⟩
        rw [List.append_assoc, List.forall_mem_append]
        refine ⟨?_, exponent⟩
        match digits with
        | [] => exact List.all_eq_true.1 (by decide)
        | [d] => exact word
        | d :: e :: rest =>
          rw [List.forall_mem_cons] at word ⊢
          exact ⟨word.1, List.forall_mem_cons.2 ⟨by decide, word.2⟩⟩

/-- A number may stand plain. -/
theorem standsPlain_numberText (n : Json.Number) : StandsPlain (numberText n) := by
  have dash : isWord '-' = true := by decide
  cases n with
  | integer value =>
    have digits : ∀ c ∈ Nat.toDigits 10 value.natAbs, isWord c = true := fun c => isWord_toDigits
    obtain ⟨d, rest, digits_eq⟩ := List.exists_cons_of_ne_nil
      (Nat.toDigits_ne_nil (n := value.natAbs) (b := 10))
    have first : d ∈ Nat.toDigits 10 value.natAbs := digits_eq ▸ List.mem_cons_self
    have other : d ≠ '-' := by
      rintro rfl
      exact absurd (Nat.isDigit_of_mem_toDigits (by decide) (by decide) first) (by decide)
    rw [numberText, Decimal.intDigits, Decimal.natDigits]
    split
    · exact .of_isWord (List.forall_mem_cons.2 ⟨dash, digits⟩)
        ⟨d, List.mem_cons_of_mem _ first, other⟩
    · exact .of_isWord digits ⟨d, first, other⟩
  | real value =>
    obtain ⟨word, c, mem, other⟩ := magnitude_spec (isWord_shortest value) value.shortest.2
    have sign : ∀ c ∈ (if value.isNegative then ['-'] else []), isWord c = true := by
      split
      · simpa using dash
      · simp
    rw [numberText, Decimal.Layout.text]
    simp only []
    split
    · exact .of_isWord (List.forall_mem_append.2 ⟨sign, List.all_eq_true.1 (by decide)⟩)
        ⟨'0', List.mem_append_right _ (by decide), by decide⟩
    · exact .of_isWord (List.forall_mem_append.2 ⟨sign, word⟩)
        ⟨c, List.mem_append_right _ mem, other⟩

end StateMetrics.Yaml
