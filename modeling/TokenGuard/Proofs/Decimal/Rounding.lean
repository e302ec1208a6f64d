import Mathlib.Algebra.Order.Field.Power
import Mathlib.Data.Rat.Cast.Order
import Mathlib.Tactic.Linarith
import Mathlib.Tactic.NormNum
import Mathlib.Tactic.Ring
import TokenGuard.Decimal.Binary64

/-! A ratio is rounded to a finite magnitude exactly if it lies below the middle between the largest
finite number and the next power of two. -/

namespace TokenGuard.Binary64

variable {numerator denominator bound : Nat}

/-- The least positive number that is rounded to infinity: the middle between the largest finite
number and the power of two behind it, which is the even one of the two. -/
def overflow : ℚ := (2 ^ 54 - 1) * 2 ^ 970

/-- A quotient up to an integer is rounded to this integer at most. -/
theorem roundHalfEven_le (positive : 0 < denominator)
    (below : numerator ≤ bound * denominator) :
    roundHalfEven numerator denominator ≤ bound := by
  have quotient := Nat.div_add_mod numerator denominator
  rcases Nat.lt_or_ge (numerator / denominator) bound with less | more
  · -- Rounding adds one at most, which a smaller quotient has room for.
    unfold roundHalfEven
    dsimp only
    split
    · omega
    · split <;> omega
  · -- A quotient that reaches the integer leaves no remainder.
    have reached : denominator * bound ≤ denominator * (numerator / denominator) :=
      Nat.mul_le_mul_left denominator more
    rw [Nat.mul_comm bound] at below
    have exact : numerator % denominator = 0 := by omega
    have same : numerator / denominator = bound :=
      Nat.eq_of_mul_eq_mul_left positive (by omega)
    simp [roundHalfEven, exact, same, positive]

/-- A quotient from an integer on is rounded to this integer at least. -/
theorem le_roundHalfEven (positive : 0 < denominator)
    (above : bound * denominator ≤ numerator) :
    bound ≤ roundHalfEven numerator denominator := by
  have reached : bound ≤ numerator / denominator :=
    (Nat.le_div_iff_mul_le positive).mpr above
  unfold roundHalfEven
  dsimp only
  split
  · exact reached
  · split <;> omega

/-- A quotient is rounded to an odd integer at most exactly if it lies below the middle between this
integer and the next one. -/
theorem roundHalfEven_le_odd_iff (positive : 0 < denominator) (odd : bound % 2 = 1) :
    roundHalfEven numerator denominator ≤ bound ↔
      2 * numerator < (2 * bound + 1) * denominator := by
  have quotient := Nat.div_add_mod numerator denominator
  have remainder := Nat.mod_lt numerator positive
  have expanded : (2 * bound + 1) * denominator = 2 * (denominator * bound) + denominator := by ring
  rw [expanded]
  rcases Nat.lt_trichotomy (numerator / denominator) bound with less | same | more
  · -- Below the odd integer even rounding up does not pass it.
    have apart : denominator * (numerator / denominator + 1) ≤ denominator * bound :=
      Nat.mul_le_mul_left denominator less
    rw [Nat.mul_add] at apart
    refine iff_of_true ?_ (by omega)
    unfold roundHalfEven
    dsimp only
    split
    · omega
    · split <;> omega
  · -- At the odd integer a half is rounded up to the even one.
    rw [← same] at odd ⊢
    unfold roundHalfEven
    dsimp only
    split
    · exact iff_of_true (Nat.le_refl _) (by omega)
    · split <;> exact iff_of_false (by omega) (by omega)
  · -- Above it the quotient alone is larger already.
    have apart : denominator * (bound + 1) ≤ denominator * (numerator / denominator) :=
      Nat.mul_le_mul_left denominator more
    rw [Nat.mul_add] at apart
    refine iff_of_false ?_ (by omega)
    have reached := le_roundHalfEven positive (Nat.div_mul_le_self numerator denominator)
    omega

/-- A multiple of a ratio that is scaled by a power of two is compared like that of the ratio with the
power. -/
theorem scaled_mul_lt_iff (numerator bound : Nat) (positive : 0 < denominator) (factor : Nat) (q : Int) :
    factor * (numerator * Nat.pow 2 (-q).toNat) < bound * (denominator * Nat.pow 2 q.toNat) ↔
      (factor : ℚ) * (numerator / denominator) < bound * 2 ^ q := by
  have positive' : (0 : ℚ) < denominator := Nat.cast_pos.mpr positive
  -- One of the two powers is one, as the exponent has one sign.
  obtain ⟨k, rfl | rfl⟩ := q.eq_nat_or_neg
  · have none : (-(k : Int)).toNat = 0 := by omega
    rw [none, Int.toNat_natCast, zpow_natCast, mul_div_assoc', div_lt_iff₀ positive',
      ← Nat.cast_lt (α := ℚ), Nat.pow_eq, Nat.pow_eq]
    push_cast
    rw [mul_one, mul_assoc, mul_comm (2 ^ k : ℚ)]
  · have none : (-(k : Int)).toNat = 0 := by omega
    rw [none, neg_neg, Int.toNat_natCast, zpow_neg, zpow_natCast, ← div_eq_mul_inv,
      lt_div_iff₀ (by positivity), mul_div_assoc', div_mul_eq_mul_div, div_lt_iff₀ positive',
      ← Nat.cast_lt (α := ℚ), Nat.pow_eq, Nat.pow_eq]
    push_cast
    rw [mul_one, mul_assoc]

/-- A ratio that is scaled by a power of two is compared like the ratio with the power. -/
theorem scaled_lt_iff (numerator bound : Nat) (positive : 0 < denominator) (q : Int) :
    numerator * Nat.pow 2 (-q).toNat < bound * (denominator * Nat.pow 2 q.toNat) ↔
      (numerator : ℚ) / denominator < bound * 2 ^ q := by
  have compared := scaled_mul_lt_iff numerator bound positive 1 q
  rwa [one_mul, Nat.cast_one, one_mul] at compared

/-- A ratio in units of a power of two, rounded to an integer. -/
def roundAt (numerator denominator : Nat) (q : Int) : Nat :=
  roundHalfEven (numerator * Nat.pow 2 (-q).toNat) (denominator * Nat.pow 2 q.toNat)

/-- A power of two leaves a denominator positive. -/
theorem unit_pos (positive : 0 < denominator) (q : Int) : 0 < denominator * Nat.pow 2 q.toNat :=
  Nat.mul_pos positive (Nat.two_pow_pos _)

/-- A ratio below some units is rounded to this number of units at most. -/
theorem roundAt_le (positive : 0 < denominator) {q : Int}
    (below : (numerator : ℚ) / denominator < bound * 2 ^ q) :
    roundAt numerator denominator q ≤ bound := by
  have scaled := (scaled_lt_iff numerator bound positive q).mpr below
  exact roundHalfEven_le (unit_pos positive q) scaled.le

/-- A ratio of some units or more is rounded to this number of units at least. -/
theorem le_roundAt (positive : 0 < denominator) {q : Int}
    (above : bound * 2 ^ q ≤ (numerator : ℚ) / denominator) :
    bound ≤ roundAt numerator denominator q := by
  have scaled := mt (scaled_lt_iff numerator bound positive q).mp (not_lt.mpr above)
  exact le_roundHalfEven (unit_pos positive q) (not_lt.mp scaled)

/-- A ratio is rounded to an odd number of units at most exactly if it lies below the middle behind
this number. -/
theorem roundAt_le_odd_iff (numerator : Nat) (positive : 0 < denominator) (odd : bound % 2 = 1)
    (q : Int) :
    roundAt numerator denominator q ≤ bound ↔
      2 * ((numerator : ℚ) / denominator) < (2 * bound + 1) * 2 ^ q := by
  have compared := scaled_mul_lt_iff numerator (2 * bound + 1) positive 2 q
  rw [roundAt, roundHalfEven_le_odd_iff (unit_pos positive q) odd, compared]
  push_cast
  rfl

/-- The bits of two numbers tell their ratio up to a factor of two. -/
theorem ratio_bounds (counted : 0 < numerator) (positive : 0 < denominator) :
    (2 : ℚ) ^ ((Nat.log2 numerator : Int) - Nat.log2 denominator - 1) ≤
        (numerator : ℚ) / denominator ∧
      (numerator : ℚ) / denominator <
        2 ^ ((Nat.log2 numerator : Int) - Nat.log2 denominator + 1) := by
  have positive' : (0 : ℚ) < denominator := Nat.cast_pos.mpr positive
  have nonzero : (2 : ℚ) ≠ 0 := by norm_num
  -- The numerator is bounded by its own power of two and the denominator by the next one, or the
  -- other way round.
  constructor
  · have counted : (2 : ℚ) ^ (Nat.log2 numerator) ≤ numerator := by
      exact_mod_cast Nat.log2_self_le (Nat.pos_iff_ne_zero.mp counted)
    have divided : (denominator : ℚ) ≤ 2 ^ (Nat.log2 denominator + 1) := by
      exact_mod_cast Nat.lt_log2_self.le
    rw [le_div_iff₀ positive']
    calc (2 : ℚ) ^ ((Nat.log2 numerator : Int) - Nat.log2 denominator - 1) * denominator
        ≤ 2 ^ ((Nat.log2 numerator : Int) - Nat.log2 denominator - 1) *
            2 ^ (Nat.log2 denominator + 1) := by gcongr
      _ = 2 ^ (Nat.log2 numerator) := by
          rw [← zpow_natCast, ← zpow_natCast, ← zpow_add₀ nonzero]
          exact congrArg _ (by omega)
      _ ≤ numerator := counted
  · have counted : (numerator : ℚ) < 2 ^ (Nat.log2 numerator + 1) := by
      exact_mod_cast Nat.lt_log2_self
    have divided : (2 : ℚ) ^ (Nat.log2 denominator) ≤ denominator := by
      exact_mod_cast Nat.log2_self_le (Nat.pos_iff_ne_zero.mp positive)
    rw [div_lt_iff₀ positive']
    calc (numerator : ℚ) < 2 ^ (Nat.log2 numerator + 1) := counted
      _ = 2 ^ ((Nat.log2 numerator : Int) - Nat.log2 denominator + 1) *
            2 ^ (Nat.log2 denominator) := by
          rw [← zpow_natCast, ← zpow_natCast, ← zpow_add₀ nonzero]
          exact congrArg _ (by omega)
      _ ≤ 2 ^ ((Nat.log2 numerator : Int) - Nat.log2 denominator + 1) * denominator := by gcongr

/-- The power of two of a positive ratio leaves it 53 bits before the point, unless the least power
stands in for a smaller one. -/
theorem exists_power (counted : 0 < numerator) (positive : 0 < denominator) :
    ∃ q : Int, power numerator denominator = max (-1074) q ∧
      (2 : ℚ) ^ (q + 52) ≤ (numerator : ℚ) / denominator ∧
      (numerator : ℚ) / denominator < 2 ^ (q + 53) := by
  obtain ⟨low, high⟩ := ratio_bounds counted positive
  let guess : Int := (Nat.log2 numerator : Int) - Nat.log2 denominator - 52
  -- The test compares the ratio with the power between the two that enclose it.
  have test : numerator * Nat.pow 2 (-guess).toNat <
      binadeSize * (denominator * Nat.pow 2 guess.toNat) ↔
        (numerator : ℚ) / denominator < 2 ^ (guess + 52) := by
    have size : (binadeSize : ℚ) = 2 ^ (52 : Int) := by norm_num [binadeSize]
    have compared := scaled_lt_iff numerator binadeSize positive guess
    rwa [size, ← zpow_add₀ (by norm_num), add_comm] at compared
  by_cases less : numerator * Nat.pow 2 (-guess).toNat <
      binadeSize * (denominator * Nat.pow 2 guess.toNat)
  · -- A ratio below that power lies in the lower one of the two binades.
    refine ⟨guess - 1, by simp only [power, guess, if_pos less], ?_, ?_⟩
    · rwa [show guess - 1 + 52 = (Nat.log2 numerator : Int) - Nat.log2 denominator - 1 by omega]
    · rw [show guess - 1 + 53 = guess + 52 by omega]
      exact test.mp less
  · refine ⟨guess, by simp only [power, guess, if_neg less], not_lt.mp (mt test.mpr less), ?_⟩
    rwa [show guess + 53 = (Nat.log2 numerator : Int) - Nat.log2 denominator + 1 by omega]

/-- A positive ratio is rounded to a finite magnitude exactly if the bits of its power and of the
rounded units stay below those of infinity. -/
theorem nearest_lt_infinity_iff_bits (counted : 0 < numerator) :
    nearest numerator denominator < infinity ↔
      (power numerator denominator + 1074).toNat * binadeSize +
        roundAt numerator denominator (power numerator denominator) < infinity := by
  rw [nearest, if_neg (Nat.pos_iff_ne_zero.mp counted), min_lt_iff]
  exact or_iff_right (Nat.lt_irrefl _)

/-- The overflow lies between the last two powers of two that are not both infinite. -/
theorem overflow_bounds : (2 : ℚ) ^ (1023 : Int) ≤ overflow ∧ overflow ≤ 2 ^ (1024 : Int) := by
  -- Leaving out the one that is subtracted gives a power of two.
  constructor
  · calc (2 : ℚ) ^ (1023 : Int) = 2 ^ 53 * 2 ^ 970 := by rw [← pow_add, zpow_ofNat]
      _ ≤ (2 ^ 54 - 1) * 2 ^ 970 := by gcongr; norm_num
  · calc (2 ^ 54 - 1) * 2 ^ 970 ≤ (2 : ℚ) ^ 54 * 2 ^ 970 := by gcongr; norm_num
      _ = 2 ^ (1024 : Int) := by rw [← pow_add, zpow_ofNat]

/-- The overflow is the middle behind an odd number of units in the last binade. -/
theorem two_mul_overflow : 2 * overflow = (2 * (2 ^ 53 - 1 : Nat) + 1) * 2 ^ (971 : Int) := by
  rw [overflow, zpow_ofNat, pow_succ 2 970]
  generalize (2 : ℚ) ^ 970 = unit
  push_cast
  ring

/-- A ratio is rounded to a finite magnitude exactly if it lies below the overflow. -/
theorem nearest_lt_infinity_iff (positive : 0 < denominator) :
    nearest numerator denominator < infinity ↔ (numerator : ℚ) / denominator < overflow := by
  rcases Nat.eq_zero_or_pos numerator with rfl | counted
  · -- Zero is rounded to itself.
    refine iff_of_true (Nat.mul_pos (by decide) (Nat.two_pow_pos 52)) ?_
    norm_num [overflow]
  obtain ⟨q, isPower, low, high⟩ := exists_power counted positive
  have two : (1 : ℚ) ≤ 2 := by norm_num
  have size : binadeSize = 2 ^ 52 := rfl
  rw [nearest_lt_infinity_iff_bits counted, isPower, infinity, size]
  -- The power of the ratio is below that of the last binade, is that one, or is above it.
  rcases Int.lt_trichotomy q 971 with less | rfl | more
  · -- Two binades below infinity no rounding reaches it.
    have units : (numerator : ℚ) / denominator < (2 ^ 53 : Nat) * 2 ^ max (-1074) q := by
      calc (numerator : ℚ) / denominator < 2 ^ (q + 53) := high
        _ ≤ 2 ^ (53 + max (-1074) q) := zpow_le_zpow_right₀ two (by omega)
        _ = (2 ^ 53 : Nat) * 2 ^ max (-1074) q := by
            rw [zpow_add₀ (by norm_num)]
            norm_num
    have rounded := roundAt_le positive units
    refine iff_of_true (by omega) ?_
    calc (numerator : ℚ) / denominator < 2 ^ (q + 53) := high
      _ ≤ 2 ^ (1023 : Int) := zpow_le_zpow_right₀ two (by omega)
      _ ≤ overflow := overflow_bounds.1
  · -- In the last binade the units must not be rounded up to the next power of two.
    have last : max (-1074) (971 : Int) = 971 := rfl
    have odd : (2 ^ 53 - 1) % 2 = 1 := by decide
    have rounded := roundAt_le_odd_iff numerator positive odd 971
    rw [← two_mul_overflow] at rounded
    rw [last]
    constructor
    · intro finite
      have middle := rounded.mp (by omega)
      linarith
    · intro below
      have units := rounded.mpr (by linarith)
      omega
  · -- Beyond it the units make up one more binade.
    have same : max (-1074) q = q := by omega
    have units : ((2 ^ 52 : Nat) : ℚ) * 2 ^ q ≤ (numerator : ℚ) / denominator := by
      calc ((2 ^ 52 : Nat) : ℚ) * 2 ^ q = 2 ^ (q + 52) := by
            rw [zpow_add₀ (by norm_num), mul_comm]
            norm_num
        _ ≤ (numerator : ℚ) / denominator := low
    have rounded := le_roundAt positive units
    rw [same]
    refine iff_of_false (by omega) (not_lt.mpr ?_)
    calc overflow ≤ (2 : ℚ) ^ (1024 : Int) := overflow_bounds.2
      _ ≤ 2 ^ (q + 52) := zpow_le_zpow_right₀ two (by omega)
      _ ≤ (numerator : ℚ) / denominator := low

end TokenGuard.Binary64
