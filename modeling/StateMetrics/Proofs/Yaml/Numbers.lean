import StateMetrics.Proofs.Decimal.Text
import StateMetrics.Proofs.Json.Proper
import StateMetrics.Yaml.Printer

/-!
# Printed numbers

A number is printed as a sign and a numeral, a whole number without a point and without an exponent,
a double never so (`numberText_cases`). So numbers are told apart by their texts
(`numberText_injective`), and a string that looks like one of them is quoted
(`needsQuotes_numberText`).
-/

namespace StateMetrics

open Decimal

namespace Yaml

variable {digits : List Char} {n m : Json.Number}

/-- The numeral of a whole number. -/
def wholeNumeral (k : Nat) : Numeral := ⟨natDigits k, none, none⟩

theorem isDigit_of_mem_natDigits {k : Nat} {c : Char} (mem : c ∈ natDigits k) : c.isDigit = true :=
  Nat.isDigit_of_mem_toDigits (by decide) (by decide) mem

theorem isWritten_wholeNumeral (k : Nat) : (wholeNumeral k).IsWritten :=
  ⟨Nat.toDigits_ne_nil, fun _ => isDigit_of_mem_natDigits, nofun, nofun⟩

theorem intDigits_eq (i : Int) (plusSign : Bool) :
    intDigits i = signed (decide (i < 0)) ((wholeNumeral i.natAbs).text plusSign) := by
  have text : (wholeNumeral i.natAbs).text plusSign = natDigits i.natAbs := List.append_nil _
  rw [intDigits, text, signed]
  by_cases negative : i < 0
  · simp [negative]
  · simp [negative]

/-- The numeral that a number is printed with, behind its sign. -/
theorem numberText_cases (proper : n.IsProper) : ∃ negative numeral,
    numberText n = signed negative (numeral.text false) ∧ numeral.IsWritten ∧
      ((∃ i, n = .integer i ∧ negative = decide (i < 0) ∧ numeral = wholeNumeral i.natAbs) ∨
        ∃ x, n = .real x ∧ numeral.IsReal ∧ numeral.toBinary64 negative = x) := by
  cases n with
  | integer i =>
    exact ⟨_, _, intDigits_eq i false, isWritten_wholeNumeral _, .inl ⟨i, rfl, rfl, rfl⟩⟩
  | real x =>
    obtain ⟨numeral, text, real, value⟩ := numberLayout.exists_text_eq proper
    exact ⟨_, numeral, text, real.toIsWritten, .inr ⟨x, rfl, real, value⟩⟩

/-- Numbers are told apart by their texts. -/
theorem numberText_injective (proper : n.IsProper) (proper' : m.IsProper)
    (same : numberText n = numberText m) : n = m := by
  obtain ⟨negative, numeral, text, written, kind⟩ := numberText_cases proper
  obtain ⟨negative', numeral', text', written', kind'⟩ := numberText_cases proper'
  rw [text, text'] at same
  obtain ⟨rfl, rfl⟩ := signed_text_inj written written' same
  rcases kind with ⟨i, rfl, sign, whole⟩ | ⟨x, rfl, real, value⟩
  · rcases kind' with ⟨j, rfl, sign', whole'⟩ | ⟨y, rfl, real, -⟩
    · have digits : natDigits i.natAbs = natDigits j.natAbs :=
        congrArg Numeral.whole (whole.symm.trans whole')
      have magnitudes : i.natAbs = j.natAbs := by
        rw [← accumulate_toDigits i.natAbs, ← accumulate_toDigits j.natAbs]
        exact congrArg (accumulate 0) digits
      have signs : i < 0 ↔ j < 0 := decide_eq_decide.1 (sign.symm.trans sign')
      rw [show i = j by omega]
    · rw [whole] at real
      exact absurd real.real (by simp [wholeNumeral])
  · rcases kind' with ⟨j, rfl, -, whole⟩ | ⟨y, rfl, -, value'⟩
    · rw [whole] at real
      exact absurd real.real (by simp [wholeNumeral])
    · rw [← value, ← value']

/-- A number starts with a minus sign or a digit. -/
theorem exists_numberText_eq (proper : n.IsProper) :
    ∃ c rest, numberText n = c :: rest ∧ (c = '-' ∨ c.isDigit = true) := by
  obtain ⟨negative, numeral, text, written, -⟩ := numberText_cases proper
  obtain ⟨d, rest, whole, digit⟩ := written.exists_text_eq false
  rw [text, whole]
  cases negative with
  | true => exact ⟨'-', d :: rest, rfl, .inl rfl⟩
  | false => exact ⟨d, rest, rfl, .inr digit⟩

/-! ## Strings that look like numbers -/

/-- A number is printed without a sign that reading would drop. -/
theorem dropPlus_numberText (proper : n.IsProper) : dropPlus (numberText n) = numberText n := by
  obtain ⟨c, rest, whole, starts⟩ := exists_numberText_eq proper
  rw [whole, dropPlus.eq_def]
  split
  · next plus =>
    rw [(List.cons.inj plus).1] at starts
    exact absurd starts (by decide)
  · rfl

/-- A number with the text of a double is read as one. -/
theorem readsAsReal_numberText {x : Binary64} (finite : x.isFinite = true) :
    readsAsReal (numberText (.real x)) = true := by
  have read : (realOf? (numberText (.real x))).any Binary64.isFinite = true := by
    rw [numberText, realOf?_text numberLayout finite]
    exact finite
  rw [readsAsReal, dropPlus_numberText (n := .real x) finite]
  simp [read]

theorem digitValue?_of_isDigit {c : Char} (digit : c.isDigit = true) :
    digitValue? c = some (c.toNat - '0'.toNat) ∧ c.toNat - '0'.toNat < 10 := by
  rw [Char.isDigit, Bool.and_eq_true, decide_eq_true_eq, decide_eq_true_eq] at digit
  refine ⟨if_pos digit, ?_⟩
  have most : c.toNat ≤ 57 := UInt32.le_iff_toNat_le.1 digit.2
  have zero : '0'.toNat = 48 := rfl
  omega

/-- A run of decimal digits is read as its value. -/
theorem ofBase?_digits (nonempty : digits ≠ []) (all : ∀ c ∈ digits, c.isDigit = true) :
    ofBase? 10 digits = some (accumulate 0 digits) := by
  rw [ofBase?, if_neg nonempty]
  clear nonempty
  generalize 0 = acc
  induction digits generalizing acc with
  | nil => rfl
  | cons c digits ih =>
    obtain ⟨digit, others⟩ := List.forall_mem_cons.1 all
    obtain ⟨value, small⟩ := digitValue?_of_isDigit digit
    rw [List.foldlM_cons, value]
    simp only [small, if_true]
    exact ih others _

/-- Digits alone announce no base. -/
theorem announcedBase?_digits (all : ∀ c ∈ digits, c.isDigit = true) :
    announcedBase? digits = none := by
  have letter {c d : Char} {rest : List Char} (second : digits = c :: d :: rest) :
      d.isDigit = true := all d (by rw [second]; exact List.mem_cons_of_mem _ List.mem_cons_self)
  rw [announcedBase?.eq_def]
  split
  · exact absurd (letter rfl) (by decide)
  · exact absurd (letter rfl) (by decide)
  · exact absurd (letter rfl) (by decide)
  · rfl

/-- A number with the text of an integer is read as one, unless its zeros show that it is a string.
-/
theorem readsAsInteger_numberText {i : Int} (fits : fitsInWord i = true)
    (needless : hasNeedlessZero (numberText (.integer i)) = false) :
    readsAsInteger (numberText (.integer i)) = true := by
  have bounds : -(wordSize 63 : Int) ≤ i ∧ i < wordSize 64 := by simpa [fitsInWord] using fits
  have low : wordSize 63 ≤ wordSize 127 := Nat.pow_le_pow_right (by decide) (by decide)
  have high : wordSize 64 ≤ wordSize 128 := Nat.pow_le_pow_right (by decide) (by decide)
  have noBase := announcedBase?_digits fun _ => isDigit_of_mem_natDigits (k := i.natAbs)
  have value : ofBase? 10 (natDigits i.natAbs) = some i.natAbs := by
    have nonempty : natDigits i.natAbs ≠ [] := Nat.toDigits_ne_nil
    rw [ofBase?_digits nonempty fun _ => isDigit_of_mem_natDigits]
    exact congrArg some (accumulate_toDigits _)
  have noPlus := dropPlus_numberText (n := .integer i) fits
  rw [numberText, intDigits] at needless noPlus ⊢
  by_cases negative : i < 0
  · rw [if_pos negative] at needless ⊢
    simp only [readsAsInteger, readsAsNegative, noBase, needless, value, Bool.or_eq_true]
    right
    simp only [Bool.not_false, Option.any_some, Bool.true_and, decide_eq_true_eq]
    omega
  · rw [if_neg negative] at needless noPlus ⊢
    simp only [readsAsInteger, readsAsUnsigned, noPlus, noBase, needless, value, Bool.or_eq_true]
    left
    simp only [Bool.not_false, Option.any_some, Bool.true_and, decide_eq_true_eq]
    omega

/-- A string with the text of a number is quoted. -/
theorem needsQuotes_numberText (proper : n.IsProper) : needsQuotes (numberText n) = true := by
  rw [needsQuotes]
  cases n with
  | integer i =>
    cases needless : hasNeedlessZero (numberText (.integer i)) with
    | true => simp
    | false => simp [readsAsInteger_numberText proper needless]
  | real x => simp [readsAsReal_numberText proper]

end Yaml

end StateMetrics
