import Mathlib.Data.List.TakeDrop
import TokenGuard.Decimal.Numeral

/-! Digits are told by their values, and they are the digits of the numbers that they spell. -/

namespace TokenGuard

variable {c : Char} {n : Nat} {digits rest : Text}

/-- The number of a digit is one of ten. -/
theorem toNat_of_isDigit (digit : isDigit c = true) : 48 ≤ c.toNat ∧ c.toNat ≤ 57 := by
  obtain ⟨low, high⟩ := Bool.and_eq_true_iff.mp digit
  exact ⟨of_decide_eq_true low, of_decide_eq_true high⟩

/-- The number that one digit spells has one digit. -/
theorem digitValue_lt (digit : isDigit c = true) : digitValue c < 10 := by
  have zero : '0'.toNat = 48 := rfl
  have bounds := toNat_of_isDigit digit
  unfold digitValue
  omega

/-- The digit of the number that a digit spells is the digit itself. -/
theorem digitChar_digitValue (digit : isDigit c = true) : Nat.digitChar (digitValue c) = c := by
  -- Both characters have the same number.
  have zero : '0'.toNat = 48 := rfl
  have bounds := toNat_of_isDigit digit
  apply Char.toNat_inj.mp
  rw [Nat.toNat_digitChar_of_lt_ten (digitValue_lt digit), digitValue]
  omega

/-- The number that one digit spells is written as the digit. -/
theorem toDigits_digitValue (digit : isDigit c = true) :
    Nat.toDigits 10 (digitValue c) = [c] := by
  rw [Nat.toDigits_of_lt_base (digitValue_lt digit), digitChar_digitValue digit]

/-- A digit behind the digits of a number other than zero is the last digit of a number. -/
theorem toDigits_mul_add_digitValue (positive : 0 < n) (digit : isDigit c = true) :
    Nat.toDigits 10 (10 * n + digitValue c) = Nat.toDigits 10 n ++ [c] := by
  rw [← Nat.toDigits_append_toDigits (by decide) positive (digitValue_lt digit),
    toDigits_digitValue digit]

/-- The digits of a text are taken up to the first other character. -/
theorem takeDigits_append (all : ∀ c ∈ digits, isDigit c = true)
    (ended : ∀ c ∈ rest.head?, isDigit c = false) :
    takeDigits (digits ++ rest) = (digits, rest) := by
  rw [takeDigits, List.span_eq_takeWhile_dropWhile, List.takeWhile_append_of_pos all,
    List.dropWhile_append_of_pos all]
  -- The rest ends the digits, or there is none.
  cases rest with
  | nil => simp
  | cons c rest => simp [ended c rfl]

/-- Digits spell the number whose digits they are. -/
theorem digitsValue_ofNat (n : Nat) : digitsValue (Text.ofNat n) = n :=
  Nat.ofDigitChars_ten_toDigits

/-- The digits of a number are digits. -/
theorem isDigit_of_mem_ofNat (member : c ∈ Text.ofNat n) : isDigit c = true := by
  have digit := Nat.isDigit_of_mem_toDigits (by decide) (by decide) member
  simpa [Char.isDigit, isDigit, Char.le_def] using digit

/-- A number starts with a digit. -/
theorem exists_ofNat_cons (n : Nat) :
    ∃ c digits, Text.ofNat n = c :: digits ∧ isDigit c = true := by
  obtain ⟨c, digits, spelled⟩ := List.exists_cons_of_ne_nil (Nat.toDigits_ne_nil (b := 10) (n := n))
  exact ⟨c, digits, spelled, isDigit_of_mem_ofNat (spelled ▸ List.mem_cons_self)⟩

/-- A number that is not zero has no leading zero. -/
theorem head?_ofNat_ne_zero (positive : 0 < n) : (Text.ofNat n).head? ≠ some '0' := by
  -- The leading digit is that of a tenth of the number, or the number itself.
  induction n using Nat.strongRecOn with
  | ind n ih =>
    rcases Nat.lt_or_ge n 10 with single | more
    · -- A number of one digit is that digit, and not zero.
      rw [Text.ofNat, Nat.toDigits_of_lt_base single]
      intro zero
      have number := congrArg Char.toNat (Option.some.inj zero)
      rw [Nat.toNat_digitChar_of_lt_ten single] at number
      have code : '0'.toNat = 48 := rfl
      omega
    · -- The last digit is put behind those of the tenth part.
      have tenth := ih (n / 10) (Nat.div_lt_self positive (by decide)) (by omega)
      rw [Text.ofNat, Nat.toDigits_of_base_le (by decide) more, List.head?_append]
      obtain ⟨c, rest, digits⟩ := List.exists_cons_of_ne_nil (Nat.toDigits_ne_nil (b := 10))
      rw [Text.ofNat, digits] at tenth
      rw [digits]
      exact tenth

end TokenGuard
