import Mathlib.Algebra.Ring.Nat
import TokenGuard.Proofs.Decimal.Spelling

/-! Integers of up to 53 bits are rounded to themselves, so the numbers that their digits spell are
in the order of the integers. -/

namespace TokenGuard

variable {m n : Nat}

namespace Binary64

/-- An integer is not rounded. -/
theorem roundHalfEven_one (n : Nat) : roundHalfEven n 1 = n := by
  simp [roundHalfEven, Nat.mod_one]

/-- The leading bit of a positive integer of up to 53 bits, moved to the front of them. -/
theorem aligned_bounds (positive : 0 < n) (small : n < 2 ^ 53) :
    Nat.log2 n ≤ 52 ∧ 2 ^ 52 ≤ n * 2 ^ (52 - Nat.log2 n) ∧ n * 2 ^ (52 - Nat.log2 n) < 2 ^ 53 := by
  have nonzero : n ≠ 0 := Nat.pos_iff_ne_zero.mp positive
  have bits : Nat.log2 n ≤ 52 := Nat.le_of_lt_succ ((Nat.log2_lt nonzero).mpr small)
  -- Moving the leading bit takes as many places as it lies behind the front.
  refine ⟨bits, ?_, ?_⟩
  · calc 2 ^ 52 = 2 ^ Nat.log2 n * 2 ^ (52 - Nat.log2 n) := by
          rw [← Nat.pow_add]
          exact congrArg _ (by omega)
      _ ≤ n * 2 ^ (52 - Nat.log2 n) := Nat.mul_le_mul_right _ (Nat.log2_self_le nonzero)
  · calc n * 2 ^ (52 - Nat.log2 n) < 2 ^ (Nat.log2 n + 1) * 2 ^ (52 - Nat.log2 n) :=
          Nat.mul_lt_mul_of_pos_right Nat.lt_log2_self (Nat.two_pow_pos _)
      _ = 2 ^ 53 := by
          rw [← Nat.pow_add]
          exact congrArg _ (by omega)

/-- The power of two of an integer of up to 53 bits moves its leading bit to the front of them. -/
theorem power_ofNat (positive : 0 < n) (small : n < 2 ^ 53) :
    power n 1 = (Nat.log2 n : Int) - 52 := by
  obtain ⟨bits, aligned, -⟩ := aligned_bounds positive small
  -- The guess is exact, as an integer of that many bits fills the binade.
  have guess : (Nat.log2 n : Int) - (Nat.log2 1 : Nat) - 52 = (Nat.log2 n : Int) - 52 := by
    rw [show Nat.log2 1 = 0 by decide]
    omega
  have shift : (-((Nat.log2 n : Int) - 52)).toNat = 52 - Nat.log2 n := by omega
  have unit : ((Nat.log2 n : Int) - 52).toNat = 0 := by omega
  have fits : ¬ n * Nat.pow 2 (52 - Nat.log2 n) < binadeSize * (1 * Nat.pow 2 0) :=
    Nat.not_lt.mpr aligned
  rw [power, guess, shift, unit, if_neg fits]
  omega

/-- A positive integer of up to 53 bits keeps all of them. -/
theorem nearest_ofNat (positive : 0 < n) (small : n < 2 ^ 53) :
    nearest n 1 = (Nat.log2 n + 1022) * 2 ^ 52 + n * 2 ^ (52 - Nat.log2 n) := by
  obtain ⟨bits, -, aligned⟩ := aligned_bounds positive small
  -- No bit falls behind the point, so that rounding finds an integer.
  have size : binadeSize = 2 ^ 52 := rfl
  have shift : (-((Nat.log2 n : Int) - 52)).toNat = 52 - Nat.log2 n := by omega
  have unit : ((Nat.log2 n : Int) - 52).toNat = 0 := by omega
  have exponent : ((Nat.log2 n : Int) - 52 + 1074).toNat = Nat.log2 n + 1022 := by omega
  rw [nearest, if_neg (Nat.pos_iff_ne_zero.mp positive), power_ofNat positive small]
  dsimp only
  rw [shift, unit, exponent, size, Nat.pow_eq, Nat.pow_eq, Nat.pow_zero, Nat.mul_one,
    roundHalfEven_one, infinity, size]
  omega

/-- Integers of up to 53 bits are finite. -/
theorem nearest_ofNat_lt_infinity (small : n < 2 ^ 53) : nearest n 1 < infinity := by
  have limit : infinity = 2047 * 2 ^ 52 := rfl
  rcases Nat.eq_zero_or_pos n with rfl | positive
  · have zero : nearest 0 1 = 0 := rfl
    omega
  · obtain ⟨bits, -, high⟩ := aligned_bounds positive small
    rw [nearest_ofNat positive small]
    omega

/-- Integers of up to 53 bits keep their order. -/
theorem nearest_lt_nearest (less : m < n) (small : n < 2 ^ 53) : nearest m 1 < nearest n 1 := by
  have positive : 0 < n := Nat.zero_lt_of_lt less
  obtain ⟨-, low, -⟩ := aligned_bounds positive small
  rw [nearest_ofNat positive small]
  -- Zero has the bits of zero, which is less than those of any other integer.
  rcases Nat.eq_zero_or_pos m with rfl | positive'
  · have zero : nearest 0 1 = 0 := rfl
    omega
  · obtain ⟨-, -, high⟩ := aligned_bounds positive' (Nat.lt_trans less small)
    rw [nearest_ofNat positive' (Nat.lt_trans less small)]
    -- The larger integer has its leading bit at the same place or further in front.
    have bits : Nat.log2 m ≤ Nat.log2 n := (Nat.le_log2 (Nat.pos_iff_ne_zero.mp positive)).mpr
      (Nat.le_trans (Nat.log2_self_le (Nat.pos_iff_ne_zero.mp positive')) (Nat.le_of_lt less))
    rcases Nat.eq_or_lt_of_le bits with same | fewer
    · -- With leading bits at one place the fractions are compared.
      have fractions : m * 2 ^ (52 - Nat.log2 n) < n * 2 ^ (52 - Nat.log2 n) :=
        Nat.mul_lt_mul_of_pos_right less (Nat.two_pow_pos _)
      rw [same]
      omega
    · omega

end Binary64

/-- The digits of a number spell this number. -/
theorem Numeral.spells_ofNat (n : Nat) : Spells (Text.ofNat n) ⟨false, n, 0⟩ := by
  obtain ⟨c, digits, spelled, -⟩ := exists_ofNat_cons n
  have filled : ¬ (Text.ofNat n = [] ∧ ([] : Text) = []) := by simp [spelled]
  -- There are digits only: no sign, no point and no exponent.
  have parts := Spells.parts .absent (fun c => isDigit_of_mem_ofNat) .absent filled .absent
  simpa [digitsValue_ofNat] using parts

/-- The magnitude of an integer of up to 53 bits is that of the integer itself. -/
theorem Numeral.magnitude_ofNat (small : n < 2 ^ 53) :
    magnitude ⟨false, n, 0⟩ = Binary64.nearest n 1 := by
  rcases Nat.eq_zero_or_pos n with rfl | positive
  · rfl
  · -- Neither of the quick answers for numerals of extreme size is given.
    obtain ⟨bits, -⟩ := Binary64.aligned_bounds positive small
    have notLarge : ¬ 3 * ((Nat.log2 n : Int) / 10) + 0 > 310 := by omega
    have notSmall : ¬ (Nat.log2 n : Int) / 3 + 1 + 0 < -330 := by omega
    rw [magnitude, if_neg (Nat.pos_iff_ne_zero.mp positive)]
    dsimp only
    rw [if_neg notLarge, if_neg notSmall]
    exact congrArg (Binary64.nearest · 1) (Nat.mul_one n)

/-- The digits of a number of up to 53 bits stand for this number. -/
theorem Numeral.toBinary64?_ofNat (small : n < 2 ^ 53) :
    toBinary64? ⟨false, n, 0⟩ = some ⟨false, Binary64.nearest n 1⟩ := by
  rw [toBinary64?, magnitude_ofNat small, if_pos (Binary64.nearest_ofNat_lt_infinity small)]

end TokenGuard
