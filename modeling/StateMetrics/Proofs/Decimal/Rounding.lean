import Mathlib.Algebra.Order.Field.Power
import Mathlib.Data.Rat.Cast.Order
import Mathlib.Tactic.FieldSimp
import Mathlib.Tactic.Linarith
import Mathlib.Tactic.NormNum
import Mathlib.Tactic.Positivity
import Mathlib.Tactic.Ring
import StateMetrics.Decimal.Shortest

/-!
# What rounds to a double

Rounding a quotient finds the power of two whose multiples are the doubles around it and rounds to a
whole number of them. A positive finite double is the result of exactly the reals of its rounding
interval; here, that each of them gives it (`ofRatio_eq`, `ofDecimal_eq`).
-/

namespace StateMetrics.Binary64

/-! ## Powers -/

theorem zpow_eq_of_neg {k : Int} (negative : k < 0) (base : ℚ) :
    base ^ k = 1 / base ^ k.natAbs := by
  obtain ⟨n, rfl⟩ : ∃ n : Nat, k = -(n : Int) := ⟨k.natAbs, by omega⟩
  rw [Int.natAbs_neg, Int.natAbs_natCast, zpow_neg, zpow_natCast, one_div]

theorem zpow_eq_of_not_neg {k : Int} (nonnegative : ¬ k < 0) (base : ℚ) :
    base ^ k = base ^ k.natAbs := by
  obtain ⟨n, rfl⟩ := Int.eq_ofNat_of_zero_le (Int.not_lt.1 nonnegative)
  rw [Int.natAbs_natCast, zpow_natCast]

theorem two_zpow_pos (k : Int) : (0 : ℚ) < 2 ^ k := zpow_pos (by norm_num) k

theorem ten_zpow_pos (k : Int) : (0 : ℚ) < 10 ^ k := zpow_pos (by norm_num) k

theorem two_zpow_add (k : Int) (n : Nat) : (2 : ℚ) ^ (k + n) = 2 ^ n * 2 ^ k := by
  rw [zpow_add₀ (by norm_num), zpow_natCast, mul_comm]

theorem div_two_zpow_add (r : ℚ) (k : Int) (n : Nat) : r / 2 ^ (k + n) = r / 2 ^ k / 2 ^ n := by
  rw [two_zpow_add, mul_comm, div_div]

/-- A real takes more than `n` bits in units of a power exactly if it reaches the power that is `n`
higher. -/
theorem two_pow_le_div_iff (n : Nat) (k : Int) (r : ℚ) : 2 ^ n ≤ r / 2 ^ k ↔ 2 ^ (k + n) ≤ r := by
  rw [le_div_iff₀ (two_zpow_pos k), two_zpow_add]

/-- A real fits into `n` bits in units of a power exactly if it stays below the power that is `n`
higher. -/
theorem div_lt_two_pow_iff (n : Nat) (k : Int) (r : ℚ) : r / 2 ^ k < 2 ^ n ↔ r < 2 ^ (k + n) := by
  rw [div_lt_iff₀ (two_zpow_pos k), two_zpow_add]

/-! ## Rounding -/

/-- A scaled quotient is the quotient over the power. -/
theorem scaled_spec {den : Nat} (positive : 0 < den) (num : Nat) (power : Int) :
    0 < (scaled num den power).2 ∧
      ((scaled num den power).1 : ℚ) / (scaled num den power).2 = num / den / 2 ^ power := by
  rw [scaled]
  split
  · next negative =>
    refine ⟨positive, ?_⟩
    rw [zpow_eq_of_neg negative, Nat.pow_eq]
    push_cast
    field_simp
  · next nonnegative =>
    refine ⟨Nat.mul_pos positive (Nat.pow_pos (by decide)), ?_⟩
    rw [zpow_eq_of_not_neg nonnegative, Nat.pow_eq]
    push_cast
    rw [div_div]

/-- The whole number next to a quotient, or the even one of the two, is what the quotient rounds to.
-/
theorem roundHalfEven_eq {n d q : Nat} (positive : 0 < d) (low : (q : ℚ) - 1 / 2 ≤ n / d)
    (high : (n : ℚ) / d ≤ q + 1 / 2)
    (odd : q % 2 = 1 → (q : ℚ) - 1 / 2 < n / d ∧ (n : ℚ) / d < q + 1 / 2) :
    roundHalfEven n d = q := by
  have positive' : (0 : ℚ) < d := by exact_mod_cast positive
  have parts : (n : ℚ) / d = (n / d : Nat) + (n % d : Nat) / d := by
    have whole : (n : ℚ) = d * (n / d : Nat) + (n % d : Nat) := by
      exact_mod_cast (Nat.div_add_mod n d).symm
    rw [eq_comm, ← sub_eq_zero]
    field_simp
    linarith
  rw [parts] at low high odd
  have less {a : Nat} : 2 * a < d ↔ (a : ℚ) / d < 1 / 2 := by
    rw [div_lt_iff₀ positive', ← Nat.cast_lt (α := ℚ)]
    push_cast
    constructor <;> intro h <;> linarith
  have more {a : Nat} : d < 2 * a ↔ 1 / 2 < (a : ℚ) / d := by
    rw [lt_div_iff₀ positive', ← Nat.cast_lt (α := ℚ)]
    push_cast
    constructor <;> intro h <;> linarith
  have nonneg : (0 : ℚ) ≤ (n % d : Nat) / d := by positivity
  have small : ((n % d : Nat) : ℚ) / d < 1 := by
    rw [div_lt_one positive']
    exact_mod_cast Nat.mod_lt n positive
  rw [roundHalfEven]
  simp only [less, more]
  generalize (n / d : Nat) = whole at *
  generalize ((n % d : Nat) : ℚ) / d = part at *
  split
  · have atMost : whole < q + 1 := by exact_mod_cast (show (whole : ℚ) < q + 1 by linarith)
    have atLeast : q < whole + 1 := by exact_mod_cast (show (q : ℚ) < whole + 1 by linarith)
    omega
  · split
    · have atMost : q < whole + 2 := by exact_mod_cast (show (q : ℚ) < whole + 2 by linarith)
      have atLeast : whole < q := by exact_mod_cast (show (whole : ℚ) < q by linarith)
      omega
    · -- A half: the quotient lies in the middle between two numbers, and goes to the even one.
      have half : part = 1 / 2 := by linarith
      have atMost : q ≤ whole + 1 := by exact_mod_cast (show (q : ℚ) ≤ whole + 1 by linarith)
      have atLeast : whole ≤ q := by exact_mod_cast (show (whole : ℚ) ≤ q by linarith)
      have even : q % 2 = 0 := by
        by_contra other
        obtain ⟨low', high'⟩ := odd (by omega)
        have less : q < whole + 1 := by exact_mod_cast (show (q : ℚ) < whole + 1 by linarith)
        have more : whole < q := by exact_mod_cast (show (whole : ℚ) < q by linarith)
        omega
      omega

/-- The logarithms of its parts tell the size of a quotient. -/
theorem log2_bounds {num den : Nat} (positive : 0 < num) (positive' : 0 < den) :
    (2 : ℚ) ^ ((num.log2 : Int) - den.log2 - 1) < num / den ∧
      (num : ℚ) / den < 2 ^ ((num.log2 : Int) - den.log2 + 1) := by
  have low : (2 : ℚ) ^ (num.log2 : Int) ≤ num := by
    rw [zpow_natCast]
    exact_mod_cast Nat.log2_self_le positive.ne'
  have high : (num : ℚ) < 2 ^ ((num.log2 : Int) + 1) := by
    rw [← Nat.cast_succ, zpow_natCast]
    exact_mod_cast Nat.lt_log2_self
  have low' : (2 : ℚ) ^ (den.log2 : Int) ≤ den := by
    rw [zpow_natCast]
    exact_mod_cast Nat.log2_self_le positive'.ne'
  have high' : (den : ℚ) < 2 ^ ((den.log2 : Int) + 1) := by
    rw [← Nat.cast_succ, zpow_natCast]
    exact_mod_cast Nat.lt_log2_self
  have den_pos : (0 : ℚ) < den := by exact_mod_cast positive'
  constructor
  · rw [lt_div_iff₀ den_pos, sub_sub, zpow_sub₀ (by norm_num), div_mul_eq_mul_div,
      div_lt_iff₀ (two_zpow_pos _)]
    calc (2 : ℚ) ^ (num.log2 : Int) * den ≤ num * den := by gcongr
      _ < num * 2 ^ ((den.log2 : Int) + 1) := by gcongr
  · rw [div_lt_iff₀ den_pos, sub_add_eq_add_sub, zpow_sub₀ (by norm_num), div_mul_eq_mul_div,
      lt_div_iff₀ (two_zpow_pos _)]
    calc (num : ℚ) * 2 ^ (den.log2 : Int) ≤ num * den := by gcongr
      _ < 2 ^ ((num.log2 : Int) + 1) * den := by gcongr

/-- The unit of a quotient leaves fifty-three bits of it, unless it is the least. -/
theorem unitPower_spec {num den : Nat} (positive : 0 < num) (positive' : 0 < den) :
    -1074 ≤ unitPower num den ∧ (num : ℚ) / den / 2 ^ unitPower num den < 2 ^ 53 ∧
      (unitPower num den = -1074 ∨ 2 ^ 52 ≤ (num : ℚ) / den / 2 ^ unitPower num den) := by
  obtain ⟨low, high⟩ := log2_bounds positive positive'
  let guess : Int := (num.log2 : Int) - den.log2 - 52
  obtain ⟨positive_d, ratio⟩ := scaled_spec positive' num guess
  have small : (scaled num den guess).1 < Nat.pow 2 52 * (scaled num den guess).2 ↔
      (num : ℚ) / den < 2 ^ (guess + 52) := by
    have positive_d' : (0 : ℚ) < (scaled num den guess).2 := by exact_mod_cast positive_d
    refine Iff.trans ?_ (div_lt_two_pow_iff 52 guess _)
    rw [← ratio, div_lt_iff₀ positive_d', ← Nat.cast_lt (α := ℚ), Nat.pow_eq]
    push_cast
    rfl
  have unit : unitPower num den = max (if (scaled num den guess).1 <
    Nat.pow 2 52 * (scaled num den guess).2 then guess - 1 else guess) (-1074) := rfl
  obtain ⟨power, fits, eq⟩ : ∃ power, ((2 : ℚ) ^ (power + 52) ≤ num / den ∧
      (num : ℚ) / den < 2 ^ (power + 53)) ∧ unitPower num den = max power (-1074) := by
    refine ⟨_, ?_, unit⟩
    split
    · next below =>
      rw [show guess - 1 + 52 = (num.log2 : Int) - den.log2 - 1 from by omega,
        show guess - 1 + 53 = guess + 52 from by omega]
      exact ⟨low.le, small.1 below⟩
    · next above =>
      rw [show guess + 53 = (num.log2 : Int) - den.log2 + 1 from by omega]
      exact ⟨not_lt.1 fun below => above (small.2 below), high⟩
  rw [eq]
  refine ⟨le_max_right _ _, ?_, ?_⟩
  · rw [div_lt_two_pow_iff]
    refine fits.2.trans_le (zpow_le_zpow_right₀ (by norm_num) ?_)
    have more := le_max_left power (-1074)
    push_cast
    omega
  · rcases le_total power (-1074) with less | more
    · exact .inl (max_eq_right less)
    · right
      rw [max_eq_left more, two_pow_le_div_iff]
      exact fits.1

/-! ## Doubles -/

variable {x : Binary64} {r : ℚ}

/-- A significand has at most fifty-three bits. -/
theorem significand_lt (x : Binary64) : x.significand < 2 ^ 53 := by
  have small : x.fraction < Nat.pow 2 52 := Nat.mod_lt _ (by decide)
  simp only [Nat.pow_eq] at small
  rw [significand]
  split
  · omega
  · simp only [Nat.pow_eq]
    omega

theorem neg_1074_le_power (x : Binary64) : -1074 ≤ x.power := by
  rw [power]
  split <;> omega

/-- A finite double has a unit of at most that of the greatest one. -/
theorem power_le (finite : x.isFinite = true) : x.power ≤ 971 := by
  have small : x.exponentField < Nat.pow 2 11 := Nat.mod_lt _ (by decide)
  have other : x.exponentField ≠ 2047 := of_decide_eq_true finite
  simp only [Nat.pow_eq] at small
  rw [power]
  split <;> omega

/-- Above the least power all fifty-three bits of a significand are used. -/
theorem le_significand (above : -1074 < x.power) :
    1 < x.exponentField ∧ 2 ^ 52 ≤ x.significand := by
  rw [power] at above
  split at above
  · omega
  · next normal =>
    rw [significand, if_neg normal, Nat.pow_eq]
    omega

/-- The magnitudes count the doubles of a sign. -/
theorem magnitude_eq (x : Binary64) : (x.power + 1074).toNat * 2 ^ 52 + x.significand =
    x.exponentField * 2 ^ 52 + x.fraction := by
  rw [power, significand]
  split
  · next subnormal =>
    rw [subnormal]
    rfl
  · rw [Nat.pow_eq]
    omega

theorem ofMagnitude_eq (x : Binary64) :
    ofMagnitude x.isNegative ((x.power + 1074).toNat * 2 ^ 52 + x.significand) = x := by
  have small : x.bits.toNat < 2 ^ 64 := x.bits.toNat_lt
  rw [magnitude_eq, ofMagnitude, isNegative, exponentField, fraction]
  simp only [Nat.pow_eq, decide_eq_true_eq]
  have whole : (if 2 ^ 63 ≤ x.bits.toNat then
        2 ^ 63 + (x.bits.toNat / 2 ^ 52 % 2 ^ 11 * 2 ^ 52 + x.bits.toNat % 2 ^ 52)
      else x.bits.toNat / 2 ^ 52 % 2 ^ 11 * 2 ^ 52 + x.bits.toNat % 2 ^ 52) = x.bits.toNat := by
    split <;> omega
  rw [whole, UInt64.ofNat_toNat]

/-- A double without bits in its significand is a zero. -/
theorem zero_isNegative (vanishes : x.significand = 0) : zero x.isNegative = x := by
  have subnormal : x.exponentField = 0 := by
    by_contra normal
    rw [significand, if_neg normal, Nat.pow_eq] at vanishes
    omega
  have whole := ofMagnitude_eq x
  rwa [vanishes, power, if_pos subnormal] at whole

/-- The finite doubles are counted below infinity. -/
theorem magnitude_lt_infinityBits (finite : x.isFinite = true) :
    (x.power + 1074).toNat * 2 ^ 52 + x.significand < infinityBits := by
  have other : x.exponentField ≠ 2047 := of_decide_eq_true finite
  have field : x.exponentField < Nat.pow 2 11 := Nat.mod_lt _ (by decide)
  have fraction : x.fraction < Nat.pow 2 52 := Nat.mod_lt _ (by decide)
  simp only [Nat.pow_eq] at field fraction
  rw [magnitude_eq, infinityBits, Nat.pow_eq]
  omega

/-- The real rounds to the double of its sign: it lies between the halves to the next doubles, or is
one of these if the significand is even. -/
structure Rounds (x : Binary64) (r : ℚ) : Prop where
  low : (x.roundingInterval.1 : ℚ) ≤ 4 * (r / 2 ^ x.power)
  high : 4 * (r / 2 ^ x.power) ≤ x.roundingInterval.2.2.1
  odd : x.significand % 2 = 1 → (x.roundingInterval.1 : ℚ) < 4 * (r / 2 ^ x.power) ∧
    4 * (r / 2 ^ x.power) < x.roundingInterval.2.2.1

/-- The interval starts half a unit below the double, or a quarter where the doubles below lie
closer. -/
theorem cast_interval_low (positive : 0 < x.significand) : (x.roundingInterval.1 : ℚ) =
    4 * x.significand - if x.fraction = 0 ∧ 1 < x.exponentField then 1 else 2 := by
  rw [roundingInterval]
  dsimp only
  split
  · rw [Nat.cast_sub (by omega)]
    push_cast
    rfl
  · rw [Nat.cast_sub (by omega)]
    push_cast
    rfl

/-- The interval ends half a unit above the double. -/
theorem cast_interval_high (x : Binary64) :
    (x.roundingInterval.2.2.1 : ℚ) = 4 * x.significand + 2 := by
  rw [roundingInterval]
  push_cast
  rfl

namespace Rounds

variable (rounds : x.Rounds r) (positive : 0 < x.significand)

include rounds

theorem le_add_half : r / 2 ^ x.power ≤ x.significand + 1 / 2 := by
  have high := rounds.high
  rw [cast_interval_high] at high
  linarith

theorem lt_add_half (odd : x.significand % 2 = 1) : r / 2 ^ x.power < x.significand + 1 / 2 := by
  have high := (rounds.odd odd).2
  rw [cast_interval_high] at high
  linarith

include positive

/-- The lower end of the interval is no further than half a unit away, in any case. -/
theorem sub_half_le : (x.significand : ℚ) - 1 / 2 ≤ r / 2 ^ x.power := by
  have low := rounds.low
  rw [cast_interval_low positive] at low
  split at low <;> linarith

theorem sub_half_lt (odd : x.significand % 2 = 1) :
    (x.significand : ℚ) - 1 / 2 < r / 2 ^ x.power := by
  have low := (rounds.odd odd).1
  rw [cast_interval_low positive] at low
  split at low <;> linarith

/-- Below a power of two the doubles lie twice as close. -/
theorem sub_quarter_le (above : -1074 < x.power) (least : x.significand = 2 ^ 52) :
    (x.significand : ℚ) - 1 / 4 ≤ r / 2 ^ x.power := by
  have normal := (le_significand above).1
  have zero : x.fraction = 0 := by
    rw [significand, if_neg (by omega), Nat.pow_eq] at least
    omega
  have low := rounds.low
  rw [cast_interval_low positive, if_pos ⟨zero, normal⟩] at low
  linarith

theorem pos : 0 < r := by
  have low := rounds.sub_half_le positive
  have one : (1 : ℚ) ≤ x.significand := by exact_mod_cast positive
  have scaled : 0 < r / 2 ^ x.power := by linarith
  rwa [div_pos_iff_of_pos_right (two_zpow_pos _)] at scaled

/-- The unit of a real is that of the double it rounds to, or half of it if the double is a power of
two above it. -/
theorem unit_cases {power : Int} (least : -1074 ≤ power) (fits : r / 2 ^ power < 2 ^ 53)
    (wide : power = -1074 ∨ 2 ^ 52 ≤ r / 2 ^ power) :
    power = x.power ∨ power = x.power - 1 ∧ x.significand = 2 ^ 52 := by
  have small : (x.significand : ℚ) + 1 ≤ 2 ^ 53 := by exact_mod_cast significand_lt x
  have high := rounds.le_add_half
  have low := rounds.sub_half_le positive
  rcases lt_trichotomy power x.power with less | same | more
  · right
    obtain ⟨k, further⟩ := Int.le.dest less.le
    have large : (2 : ℚ) ^ 52 ≤ x.significand := by
      exact_mod_cast (le_significand (least.trans_lt less)).2
    rw [← further, div_two_zpow_add, le_div_iff₀ (by positivity)] at low
    obtain rfl : k = 1 := by
      by_contra other
      have power : (2 : ℚ) ^ 2 ≤ 2 ^ k := pow_le_pow_right₀ (by norm_num) (by omega)
      nlinarith
    refine ⟨by omega, le_antisymm ?_ (by exact_mod_cast large)⟩
    have below : x.significand < 2 ^ 52 + 1 := by
      exact_mod_cast (show (x.significand : ℚ) < 2 ^ 52 + 1 by linarith)
    omega
  · exact .inl same
  · obtain ⟨k, further⟩ := Int.le.dest more.le
    have nonzero : k ≠ 0 := by omega
    have wide := wide.resolve_left (by have := neg_1074_le_power x; omega)
    rw [← further, div_two_zpow_add, le_div_iff₀ (by positivity)] at wide
    have power : (2 : ℚ) ^ 1 ≤ 2 ^ k := pow_le_pow_right₀ (by norm_num) (by omega)
    linarith

end Rounds

/-- What rounds to a double gives it. -/
theorem ofRatio_eq (finite : x.isFinite = true) (positive : 0 < x.significand) {num den : Nat}
    (positive' : 0 < den) (rounds : x.Rounds (num / den)) : ofRatio x.isNegative num den = x := by
  have nonzero : 0 < num := by
    have whole := rounds.pos positive
    rw [div_pos_iff_of_pos_right (by exact_mod_cast positive')] at whole
    exact_mod_cast whole
  obtain ⟨least, fits, wide⟩ := unitPower_spec nonzero positive'
  obtain ⟨positive_d, ratio⟩ := scaled_spec positive' num (unitPower num den)
  have magnitude : (unitPower num den + 1074).toNat * 2 ^ 52 +
      roundHalfEven (scaled num den (unitPower num den)).1 (scaled num den (unitPower num den)).2 =
        (x.power + 1074).toNat * 2 ^ 52 + x.significand := by
    rcases rounds.unit_cases positive least fits wide with same | ⟨half, power⟩
    · rw [same] at positive_d ratio ⊢
      rw [roundHalfEven_eq (q := x.significand) positive_d]
      · rw [ratio]
        exact rounds.sub_half_le positive
      · rw [ratio]
        exact rounds.le_add_half
      · rw [ratio]
        exact fun odd => ⟨rounds.sub_half_lt positive odd, rounds.lt_add_half odd⟩
    · -- The significand gets a bit too many, which carries into the exponent.
      have low := rounds.sub_quarter_le positive (by omega) power
      rw [show x.power = unitPower num den + (1 : Nat) from by omega, div_two_zpow_add, ← ratio,
        power, le_div_iff₀ (by norm_num)] at low
      rw [← ratio] at fits
      push_cast at low
      rw [roundHalfEven_eq (q := 2 ^ 53) positive_d]
      · omega
      · push_cast
        linarith
      · push_cast
        linarith
      · omega
  rw [ofRatio, if_neg (by omega)]
  dsimp only
  rw [Nat.pow_eq, magnitude, min_eq_left (magnitude_lt_infinityBits finite).le, ofMagnitude_eq]

/-! ## Decimals -/

theorem ten_zpow_add (k : Int) (n : Nat) : (10 : ℚ) ^ (k + n) = 10 ^ n * 10 ^ k := by
  rw [zpow_add₀ (by norm_num), zpow_natCast, mul_comm]

/-- A whole number has as many digits as its size in powers of ten. -/
theorem length_toDigits_bounds {n : Nat} (positive : 0 < n) :
    10 ^ ((Nat.toDigits 10 n).length - 1) ≤ n ∧ n < 10 ^ (Nat.toDigits 10 n).length := by
  have nonzero : 0 < (Nat.toDigits 10 n).length := Nat.length_toDigits_pos
  refine ⟨?_, (Nat.length_toDigits_le_iff (by decide) nonzero).1 (Nat.le_refl _)⟩
  rcases Nat.eq_zero_or_pos ((Nat.toDigits 10 n).length - 1) with zero | more
  · rw [zero]
    exact positive
  · refine Nat.le_of_not_lt fun less => ?_
    have fewer := (Nat.length_toDigits_le_iff (by decide) more).2 less
    omega

/-- What rounds to a finite double is below the power that infinity starts with. -/
theorem Rounds.lt_two_pow (rounds : x.Rounds r) (finite : x.isFinite = true) :
    r < 2 ^ (1024 : Int) := by
  have high := rounds.le_add_half
  have small : (x.significand : ℚ) + 1 ≤ 2 ^ 53 := by exact_mod_cast significand_lt x
  have less : r / 2 ^ x.power < 2 ^ 53 := by linarith
  rw [div_lt_two_pow_iff] at less
  refine less.trans_le (zpow_le_zpow_right₀ (by norm_num) ?_)
  have most := power_le finite
  push_cast
  omega

/-- What rounds to a positive double is at least half of the least one. -/
theorem Rounds.two_pow_le (rounds : x.Rounds r) (positive : 0 < x.significand) :
    2 ^ (-1075 : Int) ≤ r := by
  have low := rounds.sub_half_le positive
  have one : (1 : ℚ) ≤ x.significand := by exact_mod_cast positive
  have more : (1 : ℚ) / 2 ≤ r / 2 ^ x.power := by linarith
  rw [le_div_iff₀ (two_zpow_pos _)] at more
  calc (2 : ℚ) ^ (-1075 : Int) = 1 / 2 * 2 ^ (-1074 : Int) := by
        rw [show (-1075 : Int) = -1 + -1074 by rfl, zpow_add₀ (by norm_num), zpow_neg_one, one_div]
    _ ≤ 1 / 2 * 2 ^ x.power := by
        gcongr
        · norm_num
        · exact neg_1074_le_power x
    _ ≤ r := more

/-- What rounds to a finite double has no size that is decided by itself. -/
theorem size_bounds (finite : x.isFinite = true) (positive : 0 < x.significand) {digits : Nat}
    {exponent : Int} (nonzero : 0 < digits) (rounds : x.Rounds (digits * 10 ^ exponent)) :
    ((Nat.toDigits 10 digits).length : Int) + exponent ≤ 400 ∧
      -400 ≤ ((Nat.toDigits 10 digits).length : Int) + exponent := by
  obtain ⟨low, high⟩ := length_toDigits_bounds nonzero
  have one : 0 < (Nat.toDigits 10 digits).length := Nat.length_toDigits_pos
  constructor
  · by_contra large
    have power : (10 : ℚ) ^ (400 : Int) ≤ digits * 10 ^ exponent :=
      calc (10 : ℚ) ^ (400 : Int)
        _ ≤ 10 ^ (exponent + ((Nat.toDigits 10 digits).length - 1 : Nat)) :=
          zpow_le_zpow_right₀ (by norm_num) (by omega)
        _ = (10 ^ ((Nat.toDigits 10 digits).length - 1) : Nat) * 10 ^ exponent := by
          rw [ten_zpow_add, Nat.cast_pow, Nat.cast_ofNat]
        _ ≤ digits * 10 ^ exponent := by gcongr
    have range : (2 : ℚ) ^ (1024 : Int) < 10 ^ (400 : Int) := by
      have naturals : 2 ^ 1024 < 10 ^ 400 := by decide +kernel
      exact_mod_cast naturals
    exact absurd ((power.trans_lt (rounds.lt_two_pow finite)).trans range) (lt_irrefl _)
  · by_contra small
    have power : digits * (10 : ℚ) ^ exponent < 10 ^ (-400 : Int) :=
      calc digits * (10 : ℚ) ^ exponent
        _ < (10 ^ (Nat.toDigits 10 digits).length : Nat) * 10 ^ exponent := by gcongr
        _ = 10 ^ (exponent + (Nat.toDigits 10 digits).length) := by
          rw [ten_zpow_add, Nat.cast_pow, Nat.cast_ofNat]
        _ ≤ 10 ^ (-400 : Int) := zpow_le_zpow_right₀ (by norm_num) (by omega)
    have range : (10 : ℚ) ^ (-400 : Int) < 2 ^ (-1075 : Int) := by
      have naturals : 2 ^ 1075 < 10 ^ 400 := by decide +kernel
      rw [zpow_neg, zpow_neg]
      gcongr
      exact_mod_cast naturals
    exact absurd ((rounds.two_pow_le positive).trans_lt (power.trans range)) (lt_irrefl _)

/-- A decimal that rounds to a double gives it. -/
theorem ofDecimal_eq (finite : x.isFinite = true) (positive : 0 < x.significand) {digits : Nat}
    {exponent : Int} (rounds : x.Rounds (digits * 10 ^ exponent)) :
    ofDecimal x.isNegative digits exponent = x := by
  have nonzero : 0 < digits := by
    refine Nat.pos_of_ne_zero fun zero => ?_
    have more := rounds.pos positive
    rw [zero, Nat.cast_zero, zero_mul] at more
    exact lt_irrefl _ more
  obtain ⟨most, least⟩ := size_bounds finite positive nonzero rounds
  rw [ofDecimal]
  rw [if_neg nonzero.ne', if_neg (by omega), if_neg (by omega)]
  split
  · next negative =>
    refine ofRatio_eq finite positive (Nat.pow_pos (by decide)) ?_
    rw [zpow_eq_of_neg negative, mul_one_div] at rounds
    rw [Nat.pow_eq]
    exact_mod_cast rounds
  · next nonnegative =>
    refine ofRatio_eq finite positive Nat.one_pos ?_
    rw [zpow_eq_of_not_neg nonnegative] at rounds
    rw [Nat.pow_eq, Nat.cast_one, div_one]
    exact_mod_cast rounds

end StateMetrics.Binary64
