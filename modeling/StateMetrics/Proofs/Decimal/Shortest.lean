import Mathlib.Data.List.DropRight
import StateMetrics.Decimal.Digits
import StateMetrics.Proofs.Decimal.Rounding

/-!
# The shortest digits round to the double

A candidate that is taken lies in the rounding interval (`shortestOf_cases`), and one of seventeen
digits always does, for the candidates lie closer to each other than the ends of the interval
(`isSome_shortestOf`). So there are shortest digits, and their decimal rounds to the double
(`shortest_spec`).
-/

namespace StateMetrics

namespace Binary64

variable {x : Binary64} {count c : Nat}

/-! ## Candidates -/

/-- Quarters of the unit of a double as a quotient. -/
def quarters (x : Binary64) (m : Nat) : Nat × Nat :=
  let shift : Int := x.power - 2
  if shift < 0 then (m, Nat.pow 2 shift.natAbs) else (m * Nat.pow 2 shift.natAbs, 1)

/-- The place of the point in the digits of a double. -/
def size (x : Binary64) : Int :=
  let value := x.quarters x.roundingInterval.2.1
  decimalSize value.1 value.2

/-- The value of a double among the decimals with some number of digits. -/
def grid (x : Binary64) (count : Nat) : Nat × Nat × Nat :=
  let value := x.quarters x.roundingInterval.2.1
  onGrid value.1 value.2 (count - x.size)

/-- Quarters of the unit of a double among the decimals with some number of digits. -/
def bound (x : Binary64) (count m : Nat) : Nat :=
  let places : Int := count - x.size
  if places < 0 then (x.quarters m).1 else (x.quarters m).1 * Nat.pow 10 places.natAbs

/-- Whether a decimal with some number of digits lies in the rounding interval. -/
def accepts (x : Binary64) (count c : Nat) : Bool :=
  let candidate := c * (x.grid count).2.2
  let low := x.bound count x.roundingInterval.1
  let high := x.bound count x.roundingInterval.2.2.1
  if x.roundingInterval.2.2.2 then low ≤ candidate && candidate ≤ high
  else low < candidate && candidate < high

/-- A decimal with some number of digits is taken if it lies in the rounding interval; there is none
if neither of the two next to the value does. -/
theorem shortestOf_cases (x : Binary64) (count : Nat) :
    (∃ c, x.accepts count c = true ∧ x.shortestOf count = some ⟨c, x.size⟩) ∨
      x.shortestOf count = none ∧ x.accepts count (x.grid count).1 = false ∧
        x.accepts count ((x.grid count).1 + 1) = false := by
  have parts : ∃ preferBelow : Bool, x.shortestOf count =
      (if x.accepts count (x.grid count).1 && x.accepts count ((x.grid count).1 + 1) then
        some (if preferBelow then (x.grid count).1 else (x.grid count).1 + 1)
      else if x.accepts count (x.grid count).1 then some (x.grid count).1
      else if x.accepts count ((x.grid count).1 + 1) then some ((x.grid count).1 + 1)
      else none).map fun c => ⟨c, x.size⟩ := ⟨_, rfl⟩
  obtain ⟨preferBelow, parts⟩ := parts
  rw [parts]
  cases below : x.accepts count (x.grid count).1 with
  | true =>
    cases above : x.accepts count ((x.grid count).1 + 1) with
    | true =>
      cases preferBelow with
      | true => exact .inl ⟨_, below, rfl⟩
      | false => exact .inl ⟨_, above, rfl⟩
    | false => exact .inl ⟨_, below, rfl⟩
  | false =>
    cases above : x.accepts count ((x.grid count).1 + 1) with
    | true => exact .inl ⟨_, above, rfl⟩
    | false => exact .inr ⟨rfl, rfl, rfl⟩

/-- Quarters of a unit are as many quarters of a power of two. -/
theorem quarters_spec (x : Binary64) (m : Nat) : 0 < (x.quarters m).2 ∧
    ((x.quarters m).1 : ℚ) / (x.quarters m).2 = m * 2 ^ (x.power - 2) := by
  rw [quarters]
  split
  · next negative =>
    refine ⟨Nat.pow_pos (by decide), ?_⟩
    rw [zpow_eq_of_neg negative, Nat.pow_eq, mul_one_div, Nat.cast_pow, Nat.cast_ofNat]
  · next nonnegative =>
    refine ⟨Nat.one_pos, ?_⟩
    rw [zpow_eq_of_not_neg nonnegative, Nat.pow_eq, Nat.cast_one, div_one, Nat.cast_mul,
      Nat.cast_pow, Nat.cast_ofNat]

theorem quarters_snd (x : Binary64) (m n : Nat) : (x.quarters m).2 = (x.quarters n).2 := by
  rw [quarters, quarters]
  split <;> rfl

/-- How many units of the last of some number of digits a quarter of the double's unit is. -/
def gridStep (x : Binary64) (count : Nat) : ℚ := 2 ^ (x.power - 2) * 10 ^ (count - x.size)

theorem gridStep_pos (x : Binary64) (count : Nat) : 0 < x.gridStep count :=
  mul_pos (two_zpow_pos _) (ten_zpow_pos _)

/-- Quarters of the unit, as a whole number over that of the grid, are that many steps. -/
theorem bound_spec (x : Binary64) (count m : Nat) : 0 < (x.grid count).2.2 ∧
    (x.bound count m : ℚ) / (x.grid count).2.2 = m * x.gridStep count := by
  obtain ⟨positive, ratio⟩ := quarters_spec x m
  rw [quarters_snd x m x.roundingInterval.2.1] at positive ratio
  rw [gridStep, ← mul_assoc, ← ratio, grid, onGrid, bound]
  dsimp only
  split
  · next negative =>
    refine ⟨Nat.mul_pos positive (Nat.pow_pos (by decide)), ?_⟩
    rw [zpow_eq_of_neg negative, Nat.pow_eq, Nat.cast_mul, Nat.cast_pow, Nat.cast_ofNat,
      mul_one_div, div_div]
  · next nonnegative =>
    refine ⟨positive, ?_⟩
    rw [zpow_eq_of_not_neg nonnegative, Nat.pow_eq, Nat.cast_mul, Nat.cast_pow, Nat.cast_ofNat,
      mul_div_right_comm]

/-- The value of a decimal with some number of digits in quarters of the double's unit. -/
theorem div_gridStep (x : Binary64) (count c : Nat) :
    4 * (c * (10 : ℚ) ^ (x.size - count) / 2 ^ x.power) = c / x.gridStep count := by
  rw [gridStep, ← neg_sub (count : Int) x.size, zpow_neg, zpow_sub₀ two_ne_zero x.power 2]
  have two := two_zpow_pos x.power
  have ten := ten_zpow_pos (count - x.size)
  field_simp
  ring

/-- A candidate is compared with quarters of the unit by whole numbers. -/
theorem bound_le_iff (x : Binary64) (count m c : Nat) :
    x.bound count m ≤ c * (x.grid count).2.2 ↔ (m : ℚ) ≤ c / x.gridStep count := by
  obtain ⟨positive, ratio⟩ := bound_spec x count m
  rw [le_div_iff₀ (gridStep_pos x count), ← ratio, div_le_iff₀ (by exact_mod_cast positive)]
  norm_cast

theorem lt_bound_iff (x : Binary64) (count m c : Nat) :
    c * (x.grid count).2.2 < x.bound count m ↔ (c : ℚ) / x.gridStep count < m := by
  rw [← not_le, bound_le_iff, not_le]

theorem le_bound_iff (x : Binary64) (count m c : Nat) :
    c * (x.grid count).2.2 ≤ x.bound count m ↔ (c : ℚ) / x.gridStep count ≤ m := by
  obtain ⟨positive, ratio⟩ := bound_spec x count m
  rw [div_le_iff₀ (gridStep_pos x count), ← ratio, le_div_iff₀ (by exact_mod_cast positive)]
  norm_cast

theorem bound_lt_iff (x : Binary64) (count m c : Nat) :
    x.bound count m < c * (x.grid count).2.2 ↔ (m : ℚ) < c / x.gridStep count := by
  rw [← not_le, le_bound_iff, not_le]

/-- The decimals that lie in the rounding interval are those that round to the double. -/
theorem accepts_iff : x.accepts count c = true ↔ x.Rounds (c * 10 ^ (x.size - count)) := by
  have closed : x.roundingInterval.2.2.2 = decide (x.significand % 2 = 0) := rfl
  rw [accepts, closed]
  simp only [bound_le_iff, le_bound_iff, bound_lt_iff, lt_bound_iff]
  rcases Nat.mod_two_eq_zero_or_one x.significand with even | odd
  · simp only [even, decide_true, if_true, Bool.and_eq_true, decide_eq_true_eq]
    constructor
    · intro ⟨low, high⟩
      rw [← div_gridStep] at low high
      exact ⟨low, high, fun odd => by omega⟩
    · intro rounds
      rw [← div_gridStep]
      exact ⟨rounds.low, rounds.high⟩
  · simp only [odd, one_ne_zero, decide_false, Bool.false_eq_true, if_false, Bool.and_eq_true,
      decide_eq_true_eq]
    constructor
    · intro ⟨low, high⟩
      rw [← div_gridStep] at low high
      exact ⟨low.le, high.le, fun _ => ⟨low, high⟩⟩
    · intro rounds
      rw [← div_gridStep]
      exact rounds.odd odd

/-- Inside the interval a candidate is taken, whether or not its ends belong to it. -/
theorem accepts_of_lt (low : (x.roundingInterval.1 : ℚ) < c / x.gridStep count)
    (high : (c : ℚ) / x.gridStep count < x.roundingInterval.2.2.1) : x.accepts count c = true := by
  rw [← div_gridStep] at low high
  exact accepts_iff.2 ⟨low.le, high.le, fun _ => ⟨low, high⟩⟩

/-! ## The size in powers of ten -/

/-- A power of ten whose exponent is at most `a / b` of some bits is not much above that many bits,
if `a / b` is about the logarithm of two. -/
theorem ten_zpow_le {a b : Nat} (nonzero : b ≠ 0) (low : 2 ^ b ≤ 10 ^ a) (high : 10 ^ a ≤ 2 ^ (b + 1))
    {bits e : Int} (small : bits ≤ b) (estimate : e * b ≤ bits * a) :
    (10 : ℚ) ^ e ≤ 2 ^ (bits + 1) := by
  refine le_of_pow_le_pow_left₀ nonzero (two_zpow_pos _).le ?_
  rw [← zpow_natCast, ← zpow_natCast, ← zpow_mul, ← zpow_mul]
  refine (zpow_le_zpow_right₀ (by norm_num) estimate).trans ?_
  rw [Int.mul_comm bits a, zpow_mul, zpow_natCast]
  rcases Int.eq_nat_or_neg bits with ⟨n, rfl | rfl⟩
  · have above : (10 : ℚ) ^ a ≤ 2 ^ (b + 1) := by exact_mod_cast high
    calc ((10 : ℚ) ^ a) ^ (n : Int) ≤ (2 ^ (b + 1)) ^ (n : Int) := by
          rw [zpow_natCast, zpow_natCast]
          gcongr
      _ = 2 ^ (((b + 1) * n : Nat) : Int) := by
          rw [zpow_natCast, zpow_natCast, pow_mul]
      _ ≤ 2 ^ (((n : Int) + 1) * b) := by
          refine zpow_le_zpow_right₀ (by norm_num) ?_
          push_cast
          linarith
  · have below : (2 : ℚ) ^ b ≤ 10 ^ a := by exact_mod_cast low
    calc ((10 : ℚ) ^ a) ^ (-n : Int) ≤ (2 ^ b) ^ (-n : Int) := by
          rw [zpow_neg, zpow_neg, zpow_natCast, zpow_natCast]
          gcongr
      _ = 2 ^ (-(n : Int) * b) := by
          rw [Int.mul_comm, zpow_mul, zpow_natCast]
      _ ≤ 2 ^ ((-(n : Int) + 1) * b) := by
          refine zpow_le_zpow_right₀ (by norm_num) ?_
          linarith

/-- The estimate of the size of a quotient is at most two too large. -/
theorem decimalSize_spec {num den : Nat} (positive : 0 < num) (positive' : 0 < den)
    (small : (num.log2 : Int) - den.log2 ≤ 100000) :
    (10 : ℚ) ^ (decimalSize num den - 1) ≤ num / den := by
  have den_pos : (0 : ℚ) < den := by exact_mod_cast positive'
  rw [decimalSize]
  split
  · next e found =>
    have least := List.find?_some found
    rw [add_sub_cancel_right]
    split at least
    · next negative =>
      rw [zpow_eq_of_neg negative, le_div_iff₀ den_pos, one_div_mul_eq_div,
        div_le_iff₀ (by positivity)]
      rw [decide_eq_true_eq, Nat.pow_eq] at least
      exact_mod_cast least
    · next nonnegative =>
      rw [zpow_eq_of_not_neg nonnegative, le_div_iff₀ den_pos, mul_comm]
      rw [decide_eq_true_eq, Nat.pow_eq] at least
      exact_mod_cast least
  · -- No candidate is below the quotient, which the estimate excludes.
    have low := (log2_bounds positive positive').1
    generalize (num.log2 : Int) - den.log2 = bits at small low
    have power := ten_zpow_le (a := 30103) (b := 100000) (by decide) (by decide +kernel)
      (by decide +kernel) small (Int.ediv_mul_le (bits * 30103) (by decide))
    rw [Nat.cast_ofNat] at power
    have two := two_zpow_pos (bits - 1)
    calc (10 : ℚ) ^ (bits * 30103 / 100000 - 1 - 1) = 10 ^ (bits * 30103 / 100000) / 10 ^ 2 := by
          rw [sub_sub, zpow_sub₀ (by norm_num)]
          rfl
      _ ≤ 2 ^ (bits + 1) / 10 ^ 2 := by gcongr
      _ = 2 ^ 2 * 2 ^ (bits - 1) / 10 ^ 2 := by
          rw [← two_zpow_add, show bits - 1 + (2 : Nat) = bits + 1 by omega]
      _ ≤ 2 ^ (bits - 1) := by linarith
      _ ≤ num / den := low.le

/-! ## Seventeen digits -/

/-- The value lies between the two decimals next to it. -/
theorem grid_bounds (x : Binary64) (count : Nat) :
    ((x.grid count).1 : ℚ) / x.gridStep count ≤ 4 * x.significand ∧
      4 * (x.significand : ℚ) < ((x.grid count).1 + 1 : Nat) / x.gridStep count := by
  have whole : (x.grid count).1 = x.bound count (4 * x.significand) / (x.grid count).2.2 := rfl
  have value : ((4 * x.significand : Nat) : ℚ) = 4 * x.significand := by push_cast; rfl
  rw [← value]
  constructor
  · exact (le_bound_iff x count _ _).1 (whole ▸ Nat.div_mul_le_self _ _)
  · exact (bound_lt_iff x count _ _).1 ((Nat.div_lt_iff_lt_mul (bound_spec x count 0).1).1
      (whole ▸ Nat.lt_succ_self _))

variable (finite : x.isFinite = true) (positive : 0 < x.significand)

include positive

/-- A double lies inside its own rounding interval. -/
theorem value_bounds : (x.roundingInterval.1 : ℚ) < 4 * x.significand ∧
    4 * (x.significand : ℚ) < x.roundingInterval.2.2.1 := by
  rw [cast_interval_low positive, cast_interval_high]
  constructor
  · split <;> linarith
  · linarith

/-- The value of a double rounds to it. -/
theorem rounds_self : x.Rounds (x.significand * 2 ^ x.power) := by
  have value : 4 * ((x.significand : ℚ) * 2 ^ x.power / 2 ^ x.power) = 4 * x.significand := by
    rw [mul_div_cancel_right₀ _ (two_zpow_pos _).ne']
  obtain ⟨low, high⟩ := value_bounds positive
  rw [← value] at low high
  exact ⟨low.le, high.le, fun _ => ⟨low, high⟩⟩

include finite

/-- The first digit of a double is not zero. -/
theorem ten_zpow_size_le : (10 : ℚ) ^ (x.size - 1) ≤ x.significand * 2 ^ x.power := by
  obtain ⟨positive_d, ratio⟩ := quarters_spec x x.roundingInterval.2.1
  have value : ((x.quarters x.roundingInterval.2.1).1 : ℚ) / (x.quarters x.roundingInterval.2.1).2 =
      x.significand * 2 ^ x.power := by
    rw [ratio, roundingInterval, zpow_sub₀ two_ne_zero]
    push_cast
    ring
  have positive_n : 0 < (x.quarters x.roundingInterval.2.1).1 := by
    have whole := (rounds_self positive).pos positive
    rw [← value, div_pos_iff_of_pos_right (by exact_mod_cast positive_d)] at whole
    exact_mod_cast whole
  rw [← value]
  refine decimalSize_spec positive_n positive_d ?_
  have low := (log2_bounds positive_n positive_d).1
  rw [value] at low
  have less := (zpow_lt_zpow_iff_right₀ (by norm_num)).1
    (low.trans ((rounds_self positive).lt_two_pow finite))
  omega

/-- Seventeen digits tell doubles of one size apart. -/
theorem inv_gridStep_le : 1 / x.gridStep 17 ≤ 4 * x.significand / 10 ^ 16 := by
  have unit := div_gridStep x 17 1
  rw [Nat.cast_one, one_mul] at unit
  have digits : (10 : ℚ) ^ (x.size - (17 : Nat)) * 10 ^ 16 ≤ x.significand * 2 ^ x.power := by
    have first := ten_zpow_size_le finite positive
    rwa [show x.size - 1 = x.size - (17 : Nat) + (16 : Nat) by omega, ten_zpow_add,
      mul_comm] at first
  rw [← unit, le_div_iff₀ (by positivity), mul_assoc, div_mul_eq_mul_div]
  gcongr
  rw [div_le_iff₀ (two_zpow_pos _)]
  exact digits

omit finite in
/-- The ends of the rounding interval lie further apart than the decimals of seventeen digits. -/
theorem lt_width : (4 * x.significand / 10 ^ 16 : ℚ) <
    x.roundingInterval.2.2.1 - x.roundingInterval.1 := by
  have low := cast_interval_low positive
  rw [cast_interval_high]
  split at low
  · next least =>
    have power : x.significand = 2 ^ 52 := by
      rw [significand, if_neg (by omega), Nat.pow_eq, least.1, Nat.add_zero]
    have power' : (x.significand : ℚ) = 2 ^ 52 := by exact_mod_cast power
    linarith
  · have small : (x.significand : ℚ) < 2 ^ 53 := by exact_mod_cast significand_lt x
    linarith

/-- One of the decimals of seventeen digits next to the value lies in the rounding interval. -/
theorem isSome_shortestOf : (x.shortestOf 17).isSome = true := by
  rcases shortestOf_cases x 17 with ⟨c, -, found⟩ | ⟨-, below, above⟩
  · rw [found]
    rfl
  · -- Both would lie outside, so the interval would be no wider than their distance.
    exfalso
    obtain ⟨le_value, value_lt⟩ := grid_bounds x 17
    obtain ⟨low, high⟩ := value_bounds positive
    have outside : ((x.grid 17).1 : ℚ) / x.gridStep 17 ≤ x.roundingInterval.1 := by
      by_contra inside
      rw [accepts_of_lt (not_le.1 inside) (le_value.trans_lt high)] at below
      cases below
    have outside' : (x.roundingInterval.2.2.1 : ℚ) ≤ ((x.grid 17).1 + 1 : Nat) / x.gridStep 17 := by
      by_contra inside
      rw [accepts_of_lt (low.trans value_lt) (not_le.1 inside)] at above
      cases above
    rw [Nat.cast_succ, add_div] at outside'
    have step := inv_gridStep_le finite positive
    have width := lt_width positive
    linarith

omit finite positive

end Binary64

/-! ## Runs of digits -/

namespace Decimal

/-- The number of some digits is the one that the library reads them as. -/
theorem accumulate_eq_ofDigitChars (acc : Nat) (digits : List Char) :
    accumulate acc digits = Nat.ofDigitChars 10 digits acc := Nat.ofDigitChars_eq_foldl.symm

theorem accumulate_append (a b : List Char) :
    accumulate 0 (a ++ b) = accumulate 0 a * 10 ^ b.length + accumulate 0 b := by
  simp only [accumulate_eq_ofDigitChars]
  rw [Nat.ofDigitChars_append, Nat.ofDigitChars_eq_ofDigitChars_zero, Nat.mul_comm]

theorem accumulate_zeros (acc count : Nat) :
    accumulate acc (List.replicate count '0') = acc * 10 ^ count := by
  rw [accumulate_eq_ofDigitChars, Nat.ofDigitChars_replicate_zero, Nat.mul_comm]

/-- Digits behind zeros are of the same value. -/
theorem accumulate_zeros_append (count : Nat) (digits : List Char) :
    accumulate 0 (List.replicate count '0' ++ digits) = accumulate 0 digits := by
  rw [accumulate_append, accumulate_zeros, Nat.zero_mul, Nat.zero_mul, Nat.zero_add]

/-- Digits in front of zeros. -/
theorem accumulate_append_zeros (count : Nat) (digits : List Char) :
    accumulate 0 (digits ++ List.replicate count '0') = accumulate 0 digits * 10 ^ count := by
  rw [accumulate_append, accumulate_zeros, Nat.zero_mul, Nat.add_zero, List.length_replicate]

/-- The digits of a number are read as the number. -/
theorem accumulate_toDigits (n : Nat) : accumulate 0 (Nat.toDigits 10 n) = n := by
  rw [accumulate_eq_ofDigitChars, Nat.ofDigitChars_ten_toDigits]

end Decimal

namespace Binary64

/-! ## The digits -/

open Decimal

/-- Digits without the zeros at their end, and these zeros. -/
theorem DecimalDigits.trim_append (count : Nat) (d : DecimalDigits) : ∃ zeros,
    (DecimalDigits.trim count d).1 ++ List.replicate zeros '0' = Nat.toDigits 10 d.digits ∧
      (DecimalDigits.trim count d).2 - (DecimalDigits.trim count d).1.length =
        d.point - count + zeros := by
  let digits := Nat.toDigits 10 d.digits
  have ends : digits.rtakeWhile (· = '0') =
      List.replicate (digits.rtakeWhile (· = '0')).length '0' := by
    refine List.eq_replicate_of_mem fun c mem => ?_
    have zero := List.mem_rtakeWhile_imp mem
    exact of_decide_eq_true zero
  have parts : digits.rdropWhile (· = '0') ++ digits.rtakeWhile (· = '0') = digits :=
    List.rdropWhile_append_rtakeWhile
  have lengths := congrArg List.length parts
  rw [List.length_append] at lengths
  refine ⟨(digits.rtakeWhile (· = '0')).length, ?_, ?_⟩
  · rw [← ends]
    exact parts
  · show d.point + ((digits.length : Int) - count) - (digits.rdropWhile (· = '0')).length = _
    omega

/-- The zeros at the end are made up for by the point. -/
theorem DecimalDigits.trim_spec (count : Nat) (d : DecimalDigits) :
    (∀ c ∈ (DecimalDigits.trim count d).1, c.isDigit = true) ∧
      (accumulate 0 (DecimalDigits.trim count d).1 : ℚ) *
          10 ^ ((DecimalDigits.trim count d).2 - (DecimalDigits.trim count d).1.length) =
        d.digits * 10 ^ (d.point - count) := by
  obtain ⟨zeros, parts, point⟩ := DecimalDigits.trim_append count d
  constructor
  · intro c mem
    exact Nat.isDigit_of_mem_toDigits (by decide) (by decide) (parts ▸ List.mem_append_left _ mem)
  · have value := congrArg (accumulate 0) parts
    rw [accumulate_append_zeros, accumulate_toDigits] at value
    rw [point, ten_zpow_add, ← value, Nat.cast_mul, Nat.cast_pow, Nat.cast_ofNat, mul_assoc]

/-- The digits of a double stand for what rounds to it. -/
theorem shortest_spec {x : Binary64} (finite : x.isFinite = true) (positive : 0 < x.significand) :
    (∀ c ∈ x.shortest.1, c.isDigit = true) ∧
      x.Rounds (accumulate 0 x.shortest.1 * 10 ^ (x.shortest.2 - x.shortest.1.length)) := by
  obtain ⟨d, found⟩ := Option.isSome_iff_exists.1 (isSome_shortestOf finite positive)
  obtain ⟨pair, first⟩ : ∃ pair, ((List.range 17).findSome? fun i =>
      (x.shortestOf (i + 1)).map (DecimalDigits.trim (i + 1))) = some pair := by
    rw [← Option.isSome_iff_exists, List.findSome?_isSome_iff]
    exact ⟨16, by decide, by rw [found]; rfl⟩
  have whole : x.shortest = pair := by
    rw [shortest, first]
    rfl
  obtain ⟨i, -, trimmed⟩ := List.exists_of_findSome?_eq_some first
  obtain ⟨decimal, taken, rfl⟩ := Option.map_eq_some_iff.1 trimmed
  obtain ⟨digits, value⟩ := DecimalDigits.trim_spec (i + 1) decimal
  rw [whole, value]
  rcases shortestOf_cases x (i + 1) with ⟨c, inside, taken'⟩ | ⟨unfound, -⟩
  · obtain rfl := Option.some.inj (taken.symm.trans taken')
    exact ⟨digits, accepts_iff.1 inside⟩
  · rw [taken] at unfound
    cases unfound

end Binary64

end StateMetrics
