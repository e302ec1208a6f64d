import TokenGuard.Proofs.Decimal.Rounding
import TokenGuard.Decimal.Numeral

/-! A numeral stands for a finite number exactly if its value lies below the overflow, however many
digits it has and however large its exponent is. -/

namespace TokenGuard.Numeral

variable {numeral : Numeral}

/-- The absolute value that a numeral spells. -/
def size (numeral : Numeral) : ℚ := numeral.coefficient * 10 ^ numeral.exponent

/-- The value of a numeral is the ratio that is rounded. -/
theorem ratio_eq_size (numeral : Numeral) :
    ((numeral.coefficient * Nat.pow 10 numeral.exponent.toNat : Nat) : ℚ) /
      (Nat.pow 10 (-numeral.exponent).toNat : Nat) = numeral.size := by
  -- One of the two powers is one, as the exponent has one sign.
  rw [size, Nat.cast_mul, Nat.pow_eq, Nat.pow_eq, Nat.cast_pow, Nat.cast_pow]
  obtain ⟨k, same | same⟩ := numeral.exponent.eq_nat_or_neg
  · have none : (-(k : Int)).toNat = 0 := by omega
    rw [same, none, Int.toNat_natCast, zpow_natCast, pow_zero, div_one]
    rfl
  · have none : (-(k : Int)).toNat = 0 := by omega
    rw [same, none, neg_neg, Int.toNat_natCast, zpow_neg, zpow_natCast, pow_zero, mul_one,
      div_eq_mul_inv]
    rfl

/-- A numeral with too many places before the point lies beyond the overflow. -/
theorem overflow_le_size (counted : numeral.coefficient ≠ 0)
    (large : 3 * (Nat.log2 numeral.coefficient / 10 : Nat) + numeral.exponent > 310) :
    Binary64.overflow ≤ numeral.size := by
  -- Ten bits are at least three places.
  have places : 10 ^ (3 * (Nat.log2 numeral.coefficient / 10)) ≤ numeral.coefficient := by
    calc 10 ^ (3 * (Nat.log2 numeral.coefficient / 10))
        = (10 ^ 3) ^ (Nat.log2 numeral.coefficient / 10) := Nat.pow_mul _ _ _
      _ ≤ (2 ^ 10) ^ (Nat.log2 numeral.coefficient / 10) := Nat.pow_le_pow_left (by decide) _
      _ = 2 ^ (10 * (Nat.log2 numeral.coefficient / 10)) := (Nat.pow_mul _ _ _).symm
      _ ≤ 2 ^ Nat.log2 numeral.coefficient :=
          Nat.pow_le_pow_right (by decide) (Nat.mul_div_le _ _)
      _ ≤ numeral.coefficient := Nat.log2_self_le counted
  have places' : (10 : ℚ) ^ ((3 * (Nat.log2 numeral.coefficient / 10 : Nat) : Nat) : Int) ≤
      numeral.coefficient := by
    rw [zpow_natCast]
    exact_mod_cast places
  -- Ten to the 311 is more than two to the 1024.
  calc Binary64.overflow ≤ 2 ^ (1024 : Int) := Binary64.overflow_bounds.2
    _ = ((2 : ℚ) ^ 93) ^ 11 * 2 := by rw [← pow_mul, ← pow_succ, zpow_ofNat]
    _ ≤ (10 ^ 28) ^ 11 * 2 := by gcongr; norm_num
    _ ≤ (10 ^ 28) ^ 11 * 10 ^ 3 := by gcongr; norm_num
    _ = 10 ^ (311 : Int) := by rw [← pow_mul, ← pow_add, zpow_ofNat]
    _ ≤ 10 ^ (((3 * (Nat.log2 numeral.coefficient / 10 : Nat) : Nat) : Int) + numeral.exponent) :=
        zpow_le_zpow_right₀ (by norm_num) (by omega)
    _ = 10 ^ ((3 * (Nat.log2 numeral.coefficient / 10 : Nat) : Nat) : Int) *
          10 ^ numeral.exponent := zpow_add₀ (by norm_num) _ _
    _ ≤ numeral.size := by unfold size; gcongr

/-- A numeral with too many places behind the point lies below the overflow. -/
theorem size_lt_overflow
    (small : (Nat.log2 numeral.coefficient / 3 + 1 : Nat) + numeral.exponent < -330) :
    numeral.size < Binary64.overflow := by
  -- Three bits are at most one place.
  have places : numeral.coefficient ≤ 10 ^ (Nat.log2 numeral.coefficient / 3 + 1) := by
    calc numeral.coefficient ≤ 2 ^ (Nat.log2 numeral.coefficient + 1) := Nat.lt_log2_self.le
      _ ≤ 2 ^ (3 * (Nat.log2 numeral.coefficient / 3 + 1)) :=
          Nat.pow_le_pow_right (by decide) (by omega)
      _ = (2 ^ 3) ^ (Nat.log2 numeral.coefficient / 3 + 1) := Nat.pow_mul _ _ _
      _ ≤ 10 ^ (Nat.log2 numeral.coefficient / 3 + 1) := Nat.pow_le_pow_left (by decide) _
  have places' : (numeral.coefficient : ℚ) ≤
      10 ^ ((Nat.log2 numeral.coefficient / 3 + 1 : Nat) : Int) := by
    rw [zpow_natCast]
    exact_mod_cast places
  -- All places together stand behind the point.
  calc numeral.size
      ≤ 10 ^ ((Nat.log2 numeral.coefficient / 3 + 1 : Nat) : Int) * 10 ^ numeral.exponent := by
        unfold size; gcongr
    _ = 10 ^ (((Nat.log2 numeral.coefficient / 3 + 1 : Nat) : Int) + numeral.exponent) :=
        (zpow_add₀ (by norm_num) _ _).symm
    _ ≤ 1 := zpow_le_one_of_nonpos₀ (by norm_num) (by omega)
    _ < 2 ^ (1023 : Int) := one_lt_zpow₀ (by norm_num) (by decide)
    _ ≤ Binary64.overflow := Binary64.overflow_bounds.1

/-- The magnitude of a numeral is finite exactly if its value lies below the overflow. -/
theorem magnitude_lt_infinity_iff :
    numeral.magnitude < Binary64.infinity ↔ numeral.size < Binary64.overflow := by
  have infinite_pos : 0 < Binary64.infinity := Nat.mul_pos (by decide) (Nat.two_pow_pos 52)
  -- The two quick answers agree with what rounding would give.
  unfold magnitude
  dsimp only
  split
  · next none =>
    refine iff_of_true infinite_pos ?_
    rw [size, none, Nat.cast_zero, zero_mul]
    exact lt_of_lt_of_le (by positivity) Binary64.overflow_bounds.1
  · next counted =>
    split
    · next large =>
      exact iff_of_false (Nat.lt_irrefl _) (not_lt.mpr (overflow_le_size counted large))
    · split
      · next small => exact iff_of_true infinite_pos (size_lt_overflow small)
      · have positive : 0 < Nat.pow 10 (-numeral.exponent).toNat := Nat.pow_pos (by decide)
        rw [Binary64.nearest_lt_infinity_iff positive, ratio_eq_size]

/-- A numeral stands for a finite number exactly if its value lies below the overflow. -/
theorem isSome_toBinary64?_iff :
    numeral.toBinary64?.isSome = true ↔ numeral.size < Binary64.overflow := by
  rw [← magnitude_lt_infinity_iff, toBinary64?]
  split <;> simp_all

end TokenGuard.Numeral
