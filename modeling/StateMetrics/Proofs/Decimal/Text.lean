import StateMetrics.Decimal.Reading
import StateMetrics.Proofs.Decimal.Shortest

/-!
# Numerals are read back

A number is written as a sign and a numeral. The numeral is read off its text part by part
(`Numeral.take_text`), and that of a double has the value of its shortest digits, wherever the point
stands (`Layout.magnitude_spec`). So the text of a finite double is read as the double
(`realOf?_text`).
-/

namespace StateMetrics.Decimal

variable {x : Binary64} {n m : Numeral} {digits : List Char}

theorem toLower_of_isDigit {c : Char} (digit : c.isDigit = true) : c.toLower = c := by
  rw [Char.isDigit_iff_toNat] at digit
  refine dif_neg fun upper => ?_
  have least : 65 ≤ c.toNat := UInt32.le_iff_toNat_le.1 upper.1
  have nine : '9'.toNat = 57 := rfl
  omega

/-! ## Reading a numeral -/

namespace Numeral

/-- The text of a fraction behind its point. -/
def fractionText : Option (List Char) → List Char
  | none => []
  | some digits => '.' :: digits

/-- The text of an exponent behind its mark; a plus sign may stand there. -/
def exponentText (plusSign : Bool) : Option (Bool × List Char) → List Char
  | none => []
  | some (negative, digits) =>
    'e' :: ((if negative then ['-'] else if plusSign then ['+'] else []) ++ digits)

/-- The text of a numeral. -/
def text (n : Numeral) (plusSign : Bool) : List Char :=
  n.whole ++ (fractionText n.fraction ++ exponentText plusSign n.exponent)

/-- The parts of a numeral are digits, and there are some where there have to be. -/
structure IsWritten (n : Numeral) : Prop where
  nonempty : n.whole ≠ []
  whole : ∀ c ∈ n.whole, c.isDigit = true
  fraction : ∀ c ∈ n.fraction.getD [], c.isDigit = true
  exponent : ∀ e ∈ n.exponent, e.2 ≠ [] ∧ ∀ c ∈ e.2, c.isDigit = true

/-- A run of digits ends where anything else stands behind it. -/
theorem takeWhile_digits (all : ∀ c ∈ digits, c.isDigit = true) (rest : List Char)
    (stop : ∀ c ∈ rest.head?, c.isDigit = false) :
    (digits ++ rest).takeWhile Char.isDigit = digits ∧
      (digits ++ rest).dropWhile Char.isDigit = rest := by
  rw [List.takeWhile_append_of_pos all, List.dropWhile_append_of_pos all]
  cases rest with
  | nil => exact ⟨List.append_nil digits, rfl⟩
  | cons c rest =>
    have other := stop c rfl
    rw [List.takeWhile_cons, List.dropWhile_cons, other]
    exact ⟨List.append_nil digits, rfl⟩

/-- An exponent is read back. -/
theorem takeExponent_exponentText {exponent : Option (Bool × List Char)}
    (digits : ∀ e ∈ exponent, e.2 ≠ [] ∧ ∀ c ∈ e.2, c.isDigit = true) (plusSign : Bool) :
    takeExponent (exponentText plusSign exponent) = (exponent, []) := by
  match exponent with
  | none => rfl
  | some (negative, run) =>
    obtain ⟨nonempty, all⟩ := digits _ rfl
    obtain ⟨taken, rest⟩ := takeWhile_digits all [] nofun
    rw [List.append_nil] at taken rest
    cases negative with
    | true => simp [takeExponent, exponentText, taken, rest]
    | false =>
      cases plusSign with
      | true => simp [takeExponent, exponentText, taken, rest]
      | false =>
        obtain ⟨d, more, rfl⟩ := List.exists_cons_of_ne_nil nonempty
        have digit := all d List.mem_cons_self
        have noSign : d ≠ '-' ∧ d ≠ '+' := by
          constructor <;> rintro rfl <;> exact absurd digit (by decide)
        simp [takeExponent, exponentText, taken, rest, noSign]

theorem head?_exponentText (exponent : Option (Bool × List Char)) (plusSign : Bool) :
    ∀ c ∈ (exponentText plusSign exponent).head?, c = 'e' := by
  cases exponent with
  | none => exact fun _ never => nomatch never
  | some e => exact fun c first => (Option.some.inj first).symm

/-- A numeral is read off its text. -/
theorem take_text (written : n.IsWritten) (plusSign : Bool) : take (n.text plusSign) = (n, []) := by
  obtain ⟨whole, fraction, exponent⟩ := n
  have stop : ∀ c ∈ (exponentText plusSign exponent).head?, c ≠ '.' ∧ c.isDigit = false := by
    intro c first
    rw [head?_exponentText exponent plusSign c first]
    decide
  have behind := takeExponent_exponentText written.exponent plusSign
  cases fraction with
  | none =>
    obtain ⟨taken, rest⟩ := takeWhile_digits written.whole _ fun c first => (stop c first).2
    rw [text, fractionText, List.nil_append, take]
    simp only [taken, rest]
    split
    · next r point => exact absurd rfl (stop '.' (by rw [point]; rfl)).1
    · simp only [behind]
  | some digits =>
    obtain ⟨taken, rest⟩ := takeWhile_digits written.whole
      ('.' :: (digits ++ exponentText plusSign exponent)) fun c first => Option.some.inj first ▸ rfl
    obtain ⟨taken', rest'⟩ := takeWhile_digits written.fraction _ fun c first => (stop c first).2
    rw [text, fractionText, List.cons_append, take]
    rw [Option.getD_some] at taken' rest'
    simp only [taken, rest, taken', rest', behind]

/-! ## Signs -/

end Numeral

/-- A text behind its sign. -/
def signed (negative : Bool) (text : List Char) : List Char :=
  (if negative then ['-'] else []) ++ text

/-- The text of a numeral starts with a digit. -/
theorem Numeral.IsWritten.exists_text_eq (written : n.IsWritten) (plusSign : Bool) :
    ∃ d rest, n.text plusSign = d :: rest ∧ d.isDigit = true := by
  obtain ⟨d, rest, whole⟩ := List.exists_cons_of_ne_nil written.nonempty
  refine ⟨d, rest ++ (fractionText n.fraction ++ exponentText plusSign n.exponent), ?_,
    written.whole d (whole ▸ List.mem_cons_self)⟩
  rw [Numeral.text, whole]
  rfl

/-- A number tells its sign and its numeral. -/
theorem signed_text_inj (written : n.IsWritten) (written' : m.IsWritten)
    {plusSign negative negative' : Bool}
    (same : signed negative (n.text plusSign) = signed negative' (m.text plusSign)) :
    negative = negative' ∧ n = m := by
  obtain ⟨d, rest, whole, digit⟩ := written.exists_text_eq plusSign
  obtain ⟨d', rest', whole', digit'⟩ := written'.exists_text_eq plusSign
  have signs : negative = negative' := by
    rw [whole, whole'] at same
    cases negative with
    | true =>
      cases negative' with
      | true => rfl
      | false =>
        rw [← (List.cons.inj same).1] at digit'
        exact absurd digit' (by decide)
    | false =>
      cases negative' with
      | true =>
        rw [(List.cons.inj same).1] at digit
        exact absurd digit (by decide)
      | false => rfl
  subst signs
  have texts : n.text plusSign = m.text plusSign := List.append_cancel_left same
  have parts := Numeral.take_text written plusSign
  rw [texts, Numeral.take_text written' plusSign] at parts
  exact ⟨rfl, (Prod.mk.inj parts).1.symm⟩

/-- A text that starts with a digit is no word. -/
theorem sameWord_eq_false {w d : Char} (digit : d.isDigit = true) (other : w.isDigit = false)
    (word rest : List Char) : sameWord (w :: word) (d :: rest) = false := by
  rw [sameWord, List.map_cons, toLower_of_isDigit digit, decide_eq_false_iff_not]
  intro same
  rw [(List.cons.inj same).1, other] at digit
  cases digit

/-- A number is read as its sign and its numeral tell. -/
theorem realOf?_signed (written : n.IsWritten) (negative plusSign : Bool) :
    realOf? (signed negative (n.text plusSign)) = some (n.toBinary64 negative) := by
  obtain ⟨d, rest, whole, digit⟩ := written.exists_text_eq plusSign
  have noWord {w : Char} (other : w.isDigit = false) (word : List Char) :
      sameWord (w :: word) (n.text plusSign) = false := by
    rw [whole]
    exact sameWord_eq_false digit other word rest
  have inf := noWord (w := 'i') rfl ['n', 'f']
  have infinity := noWord (w := 'i') rfl ['n', 'f', 'i', 'n', 'i', 't', 'y']
  have nan := noWord (w := 'n') rfl ['a', 'n']
  have complete : n.exponentComplete = true := by
    rw [Numeral.exponentComplete]
    split
    · next digits found => exact decide_eq_true (written.exponent _ found).1
    · rfl
  have taken := Numeral.take_text written plusSign
  rw [whole] at inf infinity nan taken
  have noSign : d ≠ '-' ∧ d ≠ '+' := by
    constructor <;> rintro rfl <;> exact absurd digit (by decide)
  rw [whole]
  cases negative with
  | true => simp [signed, realOf?, inf, infinity, nan, taken, written.nonempty, complete]
  | false => simp [signed, realOf?, inf, infinity, nan, taken, written.nonempty, complete, noSign]

/-! ## The text of a double -/

/-- The power of ten that the digits of a numeral are multiplied with. -/
def Numeral.scale (n : Numeral) : Int :=
  (match n.exponent with
    | none => 0
    | some (true, digits) => -(accumulate 0 digits : Int)
    | some (false, digits) => accumulate 0 digits) - (n.fraction.getD []).length

theorem Numeral.toBinary64_eq_ofDecimal (n : Numeral) (negative : Bool) : n.toBinary64 negative =
    Binary64.ofDecimal negative (accumulate 0 (n.whole ++ n.fraction.getD [])) n.scale := rfl

/-- The value of a numeral without its sign. -/
def Numeral.value (n : Numeral) : ℚ :=
  accumulate 0 (n.whole ++ n.fraction.getD []) * 10 ^ n.scale

/-- The numeral is one of a real: it has a fraction or an exponent. -/
structure Numeral.IsReal (n : Numeral) : Prop extends n.IsWritten where
  real : n.fraction ≠ none ∨ n.exponent ≠ none

theorem isDigit_zeros {count : Nat} {c : Char} (mem : c ∈ List.replicate count '0') :
    c.isDigit = true := by
  rw [List.eq_of_mem_replicate mem]
  rfl

/-- Digits with a point. -/
theorem Numeral.isReal_point {whole fraction : List Char} (nonempty : whole ≠ [])
    (all : ∀ c ∈ whole, c.isDigit = true) (all' : ∀ c ∈ fraction, c.isDigit = true) :
    (⟨whole, some fraction, none⟩ : Numeral).IsReal :=
  ⟨⟨nonempty, all, all', fun _ never => nomatch never⟩, .inl nofun⟩

/-- The digits behind the point lower the place of the last one. -/
theorem Numeral.value_point (whole fraction : List Char) :
    (⟨whole, some fraction, none⟩ : Numeral).value =
      accumulate 0 (whole ++ fraction) * 10 ^ (-(fraction.length : Int)) := by
  rw [value, scale, Option.getD_some, zero_sub]

/-- An exponent as it is written. -/
def writtenExponent (exponent : Int) : Bool × List Char :=
  (decide (exponent < 0), Nat.toDigits 10 exponent.natAbs)

/-- A numeral with an exponent is no integer, with or without a fraction. -/
theorem Numeral.isReal_exponent {whole : List Char} (fraction : Option (List Char))
    (nonempty : whole ≠ []) (all : ∀ c ∈ whole, c.isDigit = true)
    (all' : ∀ c ∈ fraction.getD [], c.isDigit = true) (exponent : Int) :
    (⟨whole, fraction, some (writtenExponent exponent)⟩ : Numeral).IsReal := by
  refine ⟨⟨nonempty, all, all', fun e found => ?_⟩, .inr nofun⟩
  obtain rfl := Option.some.inj found
  exact ⟨Nat.toDigits_ne_nil, fun c => Nat.isDigit_of_mem_toDigits (by decide) (by decide)⟩

/-- The exponent moves the point that the fraction sets. -/
theorem Numeral.value_exponent (whole : List Char) (fraction : Option (List Char))
    (exponent : Int) :
    (⟨whole, fraction, some (writtenExponent exponent)⟩ : Numeral).value =
      accumulate 0 (whole ++ fraction.getD []) * 10 ^ (exponent - (fraction.getD []).length) := by
  rw [value, scale, writtenExponent]
  by_cases negative : exponent < 0
  · simp only [negative, decide_true, accumulate_toDigits]
    rw [show -(exponent.natAbs : Int) = exponent by omega]
  · simp only [negative, decide_false, accumulate_toDigits]
    rw [show (exponent.natAbs : Int) = exponent by omega]

/-- The scientific form of digits. -/
theorem Layout.scientific_spec (layout : Layout) {d : Char} {rest : List Char}
    (all : ∀ c ∈ d :: rest, c.isDigit = true) (exponent : Int) : ∃ n : Numeral,
    (match d :: rest with
      | [] => ['0']
      | [d] => [d]
      | d :: rest => d :: '.' :: rest) ++
        'e' :: (if exponent < 0 then ['-'] else if layout.plusSign then ['+'] else []) ++
          Nat.toDigits 10 exponent.natAbs = n.text layout.plusSign ∧ n.IsReal ∧
      n.value = accumulate 0 (d :: rest) * 10 ^ (exponent - rest.length) := by
  obtain ⟨first, others⟩ := List.forall_mem_cons.1 all
  have one : ∀ c ∈ [d], c.isDigit = true := List.forall_mem_singleton.2 first
  cases rest with
  | nil =>
    refine ⟨⟨[d], none, some (writtenExponent exponent)⟩, ?_,
      Numeral.isReal_exponent none (List.cons_ne_nil _ _) one others exponent,
      Numeral.value_exponent [d] none exponent⟩
    simp [Numeral.text, Numeral.fractionText, Numeral.exponentText, writtenExponent]
  | cons e rest =>
    refine ⟨⟨[d], some (e :: rest), some (writtenExponent exponent)⟩, ?_,
      Numeral.isReal_exponent (some (e :: rest)) (List.cons_ne_nil _ _) one others exponent,
      Numeral.value_exponent [d] (some (e :: rest)) exponent⟩
    simp [Numeral.text, Numeral.fractionText, Numeral.exponentText, writtenExponent]

/-- Digits laid out are a numeral of their value, wherever the point stands. -/
theorem Layout.magnitude_spec (layout : Layout) (nonempty : digits ≠ [])
    (all : ∀ c ∈ digits, c.isDigit = true) (point : Int) :
    ∃ n : Numeral, layout.magnitude digits point = n.text layout.plusSign ∧ n.IsReal ∧
      n.value = accumulate 0 digits * 10 ^ (point - digits.length) := by
  have count : 0 < digits.length := List.length_pos_iff.2 nonempty
  rw [Layout.magnitude.eq_def]
  dsimp only
  split
  · next behind =>
    obtain ⟨zeros, gap⟩ := Int.eq_ofNat_of_zero_le (Int.sub_nonneg_of_le behind.1)
    rw [gap, Int.toNat_natCast]
    refine ⟨⟨digits ++ List.replicate zeros '0', some ['0'], none⟩, rfl,
      Numeral.isReal_point (by simp [nonempty]) (List.forall_mem_append.2 ⟨all, fun c => isDigit_zeros⟩)
        (List.forall_mem_singleton.2 rfl), ?_⟩
    rw [Numeral.value_point, List.append_assoc, ← List.replicate_succ', accumulate_append_zeros,
      Nat.cast_mul, Nat.cast_pow, Nat.cast_ofNat, mul_assoc, ← Binary64.ten_zpow_add]
    congr 2
    simp
  · split
    · next inside =>
      have first : point.toNat ≠ 0 := by omega
      refine ⟨⟨digits.take point.toNat, some (digits.drop point.toNat), none⟩, ?_,
        Numeral.isReal_point (by simp [nonempty, first]) (fun c mem => all c (List.mem_of_mem_take mem))
          (fun c mem => all c (List.mem_of_mem_drop mem)), ?_⟩
      · simp [Numeral.text, Numeral.fractionText, Numeral.exponentText]
      · rw [Numeral.value_point, List.take_append_drop, List.length_drop]
        congr 2
        omega
    · split
      · next before =>
        refine ⟨⟨['0'], some (List.replicate point.natAbs '0' ++ digits), none⟩, ?_,
          Numeral.isReal_point (List.cons_ne_nil _ _) (List.forall_mem_singleton.2 rfl)
            (List.forall_mem_append.2 ⟨fun c => isDigit_zeros, all⟩), ?_⟩
        · simp [Numeral.text, Numeral.fractionText, Numeral.exponentText]
        · rw [Numeral.value_point, ← List.append_assoc, List.singleton_append,
            ← List.replicate_succ, accumulate_zeros_append, List.length_append, List.length_replicate]
          congr 2
          omega
      · obtain ⟨d, rest, rfl⟩ := List.exists_cons_of_ne_nil nonempty
        obtain ⟨n, written, real, value⟩ := layout.scientific_spec all (point - 1)
        refine ⟨n, written, real, value.trans ?_⟩
        congr 2
        rw [List.length_cons]
        omega

/-- The text of a finite double is that of a numeral that is read as the double. -/
theorem Layout.exists_text_eq (layout : Layout) (finite : x.isFinite = true) : ∃ n : Numeral,
    layout.text x = signed x.isNegative (n.text layout.plusSign) ∧ n.IsReal ∧
      n.toBinary64 x.isNegative = x := by
  rw [Layout.text]
  split
  · next zero =>
    refine ⟨⟨['0'], some ['0'], none⟩, rfl, Numeral.isReal_point (List.cons_ne_nil _ _)
      (List.forall_mem_singleton.2 rfl) (List.forall_mem_singleton.2 rfl), ?_⟩
    exact Binary64.zero_isNegative zero
  · next positive =>
    obtain ⟨all, rounds⟩ := Binary64.shortest_spec finite (Nat.pos_of_ne_zero positive)
    have nonempty : x.shortest.1 ≠ [] := by
      intro empty
      have more := rounds.pos (Nat.pos_of_ne_zero positive)
      rw [empty] at more
      exact absurd more (by simp [accumulate])
    obtain ⟨n, written, real, value⟩ := layout.magnitude_spec nonempty all x.shortest.2
    rw [← value] at rounds
    refine ⟨n, ?_, real, ?_⟩
    · rw [← written]
      rfl
    · rw [n.toBinary64_eq_ofDecimal]
      exact Binary64.ofDecimal_eq finite (Nat.pos_of_ne_zero positive) rounds

/-- The text of a finite double is read as the double. -/
theorem realOf?_text (layout : Layout) (finite : x.isFinite = true) :
    realOf? (layout.text x) = some x := by
  obtain ⟨n, written, real, value⟩ := layout.exists_text_eq finite
  rw [written, realOf?_signed real.toIsWritten, value]

end StateMetrics.Decimal
