import StateMetrics.Decimal.Stepwise
import StateMetrics.Proofs.Decimal.Rounding

/-!
# Doubles that are read are finite

A quotient up to the greatest double rounds to a finite one (`isFinite_ofRatio`). A numeral is read
as the double of a word, which powers of ten scale: down, which keeps it finite, or up, which gives
nothing unless the result is finite (`Numeral.isFinite_of_stepwise?`).
-/

namespace StateMetrics

namespace Binary64

variable {x y : Binary64} {num den : Nat}

/-- The greatest finite double. -/
def greatest : ℚ := (2 ^ 53 - 1) * 2 ^ (971 : Int)

/-- The bits below those of infinity are a finite double. -/
theorem isFinite_ofMagnitude (negative : Bool) {magnitude : Nat} (less : magnitude < infinityBits) :
    (ofMagnitude negative magnitude).isFinite = true := by
  rw [infinityBits, Nat.pow_eq] at less
  refine decide_eq_true ?_
  rw [exponentField, ofMagnitude]
  simp only [Nat.pow_eq, UInt64.toNat_ofNat']
  split <;> omega

/-- A quotient that a whole number bounds does not round above it. -/
theorem roundHalfEven_le {n d q : Nat} (positive : 0 < d) (most : n ≤ q * d) :
    roundHalfEven n d ≤ q := by
  have quotient : n / d ≤ q := (Nat.div_le_iff_le_mul positive).2 (by omega)
  rw [roundHalfEven]
  rcases quotient.lt_or_eq with less | same
  · split
    · omega
    · split <;> omega
  · -- The quotient is whole.
    have zero : n % d = 0 := by
      have whole := Nat.div_add_mod n d
      rw [same, Nat.mul_comm] at whole
      omega
    rw [zero, if_pos (by omega)]
    exact quotient

/-- The greatest double is below the power that infinity starts with. -/
theorem greatest_lt : greatest < 2 ^ (1024 : Int) := by
  calc greatest = (2 ^ 53 - 1) * 2 ^ (971 : Int) := rfl
    _ < 2 ^ 53 * 2 ^ (971 : Int) := by
        gcongr
        norm_num
    _ = 2 ^ (1024 : Int) := (two_zpow_add 971 53).symm

/-- A word is no greater than the greatest double. -/
theorem two_zpow_le_greatest : (2 : ℚ) ^ (64 : Int) ≤ greatest := by
  calc (2 : ℚ) ^ (64 : Int) ≤ 2 ^ (971 : Int) := zpow_le_zpow_right₀ (by norm_num) (by decide)
    _ ≤ (2 ^ 53 - 1) * 2 ^ (971 : Int) := le_mul_of_one_le_left (two_zpow_pos _).le (by norm_num)

/-- The unit of what is at most the greatest double is at most that of the greatest. -/
theorem unitPower_le (nonzero : 0 < num) (positive : 0 < den) (most : (num : ℚ) / den ≤ greatest) :
    unitPower num den ≤ 971 := by
  obtain ⟨-, -, wide⟩ := unitPower_spec nonzero positive
  by_contra more
  have large := wide.resolve_left (by omega)
  rw [two_pow_le_div_iff] at large
  have further : (2 : ℚ) ^ (1024 : Int) ≤ 2 ^ (unitPower num den + (52 : Nat)) :=
    zpow_le_zpow_right₀ (by norm_num) (by omega)
  exact absurd ((further.trans large).trans most) (not_le.2 greatest_lt)

/-- What is at most the greatest double rounds to a finite one. -/
theorem isFinite_ofRatio (negative : Bool) (positive : 0 < den)
    (most : (num : ℚ) / den ≤ greatest) : (ofRatio negative num den).isFinite = true := by
  rw [ofRatio]
  split
  · exact isFinite_ofMagnitude negative (by decide)
  · next defined =>
    have nonzero := Nat.pos_of_ne_zero (not_or.1 defined).1
    have power := unitPower_le nonzero positive most
    obtain ⟨least, fits, -⟩ := unitPower_spec nonzero positive
    obtain ⟨positive_d, ratio⟩ := scaled_spec positive num (unitPower num den)
    have atMost {q : Nat} (le : (num : ℚ) / den / 2 ^ unitPower num den ≤ q) :
        roundHalfEven (scaled num den (unitPower num den)).1
          (scaled num den (unitPower num den)).2 ≤ q := by
      rw [← ratio, div_le_iff₀ (by exact_mod_cast positive_d)] at le
      exact roundHalfEven_le positive_d (by exact_mod_cast le)
    dsimp only
    refine isFinite_ofMagnitude negative ((min_le_left _ _).trans_lt ?_)
    rw [infinityBits, Nat.pow_eq]
    rcases power.lt_or_eq with less | same
    · have round := atMost (q := 2 ^ 53) (by exact_mod_cast fits.le)
      omega
    · -- The next double is infinity, so the significand does not round up to it.
      have last : ((2 ^ 53 - 1 : Nat) : ℚ) = 2 ^ 53 - 1 := by norm_num
      have round := atMost (q := 2 ^ 53 - 1) (by
        rw [same, div_le_iff₀ (two_zpow_pos _), last]
        exact most)
      omega

/-- No finite double is greater than the greatest. -/
theorem value_le_greatest (finite : x.isFinite = true) :
    x.significand * (2 : ℚ) ^ x.power ≤ greatest := by
  have small : (x.significand : ℚ) ≤ 2 ^ 53 - 1 := by
    have less : (x.significand : ℚ) + 1 ≤ 2 ^ 53 := by exact_mod_cast significand_lt x
    linarith
  rw [greatest]
  gcongr
  · norm_num
  · exact power_le finite

/-- A scaled quotient that is no greater than the greatest double rounds to a finite one. -/
theorem isFinite_ofScaledRatio (negative : Bool) (positive : 0 < den) {power : Int}
    (most : (num : ℚ) / den * 2 ^ power ≤ greatest) :
    (ofScaledRatio negative num den power).isFinite = true := by
  rw [ofScaledRatio]
  split
  · next below =>
    refine isFinite_ofRatio negative (Nat.mul_pos positive (Nat.pow_pos (by decide))) ?_
    rw [zpow_eq_of_neg below, mul_one_div, div_div] at most
    rw [Nat.pow_eq]
    exact_mod_cast most
  · next notBelow =>
    refine isFinite_ofRatio negative positive ?_
    rw [zpow_eq_of_not_neg notBelow, div_mul_eq_mul_div] at most
    rw [Nat.pow_eq]
    exact_mod_cast most

/-- A finite double stays finite when it is divided by one that is not below one. -/
theorem isFinite_dividedBy (finite : x.isFinite = true) (large : 2 ^ 52 ≤ y.significand)
    (power : -52 ≤ y.power) : (x.dividedBy y).isFinite = true := by
  have positive : 0 < y.significand := by omega
  refine isFinite_ofScaledRatio _ positive ?_
  have divisor : (1 : ℚ) ≤ y.significand * 2 ^ y.power := by
    calc (1 : ℚ) = 2 ^ 52 * 2 ^ (-52 : Int) := by norm_num
      _ ≤ y.significand * 2 ^ y.power := by
        gcongr
        · exact_mod_cast large
        · norm_num
  calc (x.significand : ℚ) / y.significand * 2 ^ (x.power - y.power)
    _ = x.significand * 2 ^ x.power / (y.significand * 2 ^ y.power) := by
      rw [zpow_sub₀ two_ne_zero, div_mul_div_comm]
    _ ≤ x.significand * 2 ^ x.power := by
      refine div_le_self (mul_nonneg (Nat.cast_nonneg _) (two_zpow_pos _).le) divisor
    _ ≤ greatest := value_le_greatest finite

/-- The powers of ten that doubles are scaled by are not below one. -/
theorem tenTo_spec : ∀ places < maxPlaces + 1,
    2 ^ 52 ≤ (tenTo places).significand ∧ -52 ≤ (tenTo places).power := by
  decide +kernel

/-- However often a double is divided by powers of ten, it stays finite. -/
theorem isFinite_scaledDown (places steps : Nat) (finite : x.isFinite = true) :
    (x.scaledDown places steps).isFinite = true := by
  induction steps generalizing x places with
  | zero => exact finite
  | succ steps ih =>
    have divided {places : Nat} (few : places ≤ maxPlaces) :
        (x.dividedBy (tenTo places)).isFinite = true := by
      obtain ⟨large, power⟩ := tenTo_spec places (Nat.lt_succ_of_le few)
      exact isFinite_dividedBy finite large power
    rw [scaledDown]
    split
    · exact finite
    · split
      · next few => exact divided few
      · exact ih _ (divided (Nat.le_refl _))

/-- A product that is not finite is not given. -/
theorem isFinite_of_scaledUp? {places : Nat} (finite : x.isFinite = true)
    (scaled : x.scaledUp? places = some y) : y.isFinite = true := by
  rw [scaledUp?] at scaled
  split at scaled
  · obtain rfl := Option.some.inj scaled
    exact finite
  · split at scaled
    · exact (Option.filter_eq_some_iff.1 scaled).2
    · cases scaled

end Binary64

namespace Decimal

theorem Leading.lt_of_extended? {l : Leading} {digit : Char} {value : Nat}
    (extended : l.extended? digit = some value) : value < wordSize 64 :=
  of_decide_eq_true (Option.filter_eq_some_iff.1 extended).2

/-- A digit in front of the point is left out where it would take more than a word. -/
theorem Leading.value_addWhole_lt {l : Leading} (word : l.value < wordSize 64) (digit : Char) :
    (l.addWhole digit).value < wordSize 64 := by
  rw [addWhole]
  split
  · next value taken =>
    split at taken
    · exact lt_of_extended? taken
    · cases taken
  · exact word

/-- A digit behind the point is left out where it would take more than a word. -/
theorem Leading.value_addFraction_lt {l : Leading} (word : l.value < wordSize 64) (digit : Char) :
    (l.addFraction digit).value < wordSize 64 := by
  rw [addFraction]
  split
  · next value taken =>
    split at taken
    · cases taken
    · exact lt_of_extended? taken
  · exact word

/-- Leading digits are a word. -/
theorem Numeral.value_leading_lt (n : Numeral) : n.leading.value < wordSize 64 := by
  have whole : (n.whole.foldl Leading.addWhole ⟨0, 0, 0, false⟩).value < wordSize 64 :=
    List.foldlRecOn (motive := fun l : Leading => l.value < wordSize 64) _ _ (wordSize_pos 64)
      fun _ word digit _ => Leading.value_addWhole_lt word digit
  exact List.foldlRecOn (motive := fun l : Leading => l.value < wordSize 64) _ _ whole
    fun _ word digit _ => Leading.value_addFraction_lt word digit

/-- A numeral is read as a finite double. -/
theorem Numeral.isFinite_of_stepwise? {n : Numeral} {negative : Bool} {x : Binary64}
    (read : n.stepwise? negative = some x) : x.isFinite = true := by
  have start : (Binary64.ofRatio negative n.leading.value 1).isFinite = true := by
    refine Binary64.isFinite_ofRatio negative Nat.one_pos ?_
    have word : (n.leading.value : ℚ) ≤ 2 ^ (64 : Int) := by
      exact_mod_cast n.value_leading_lt.le
    rw [Nat.cast_one, div_one]
    exact word.trans Binary64.two_zpow_le_greatest
  have scaled (shift : Int) (read : (if shift < 0 then
      some ((Binary64.ofRatio negative n.leading.value 1).scaledDown shift.natAbs scalingSteps)
      else (Binary64.ofRatio negative n.leading.value 1).scaledUp? shift.natAbs) = some x) :
      x.isFinite = true := by
    split at read
    · obtain rfl := Option.some.inj read
      exact Binary64.isFinite_scaledDown _ _ start
    · exact Binary64.isFinite_of_scaledUp? start read
  exact scaled _ read

end Decimal

end StateMetrics
