import TokenGuard.Json.Node
import TokenGuard.Proofs.Decimal.Digit

/-! An integer of 64 bits is written as its digits and read from them, up to whatever does not go on
the number. -/

namespace TokenGuard.Json

variable {c : Char} {digits rest : Text} {n : Nat} {number : Number}

/-- An integer of 64 bits, with or without a sign. -/
def Number.Exact : Number → Prop
  | integer value => -(Nat.pow 2 63 : Int) ≤ value ∧ value ≤ integerLimit
  | float _ => False

/-- An integer of 64 bits is written as digits, behind a minus sign if it is negative. -/
theorem Number.Exact.written (exact : number.Exact) :
    (∃ n, n ≤ integerLimit ∧ number = .integer n ∧ number.text = Text.ofNat n) ∨
      ∃ n, 0 < n ∧ n ≤ Nat.pow 2 63 ∧ number = .integer (-n) ∧
        number.text = '-' :: Text.ofNat n := by
  cases number with
  | float value => exact exact.elim
  | integer value =>
    -- The sign stands apart, and the digits behind it are those of the absolute value.
    obtain ⟨low, high⟩ := exact
    rcases Int.lt_or_le value 0 with negative | nonnegative
    · refine .inr ⟨value.natAbs, by omega, by omega, congrArg integer (by omega), ?_⟩
      rw [Number.text, integerText, if_pos negative]
      rfl
    · refine .inl ⟨value.natAbs, by omega, congrArg integer (by omega), ?_⟩
      rw [Number.text, integerText, if_neg (Int.not_lt.mpr nonnegative)]
      rfl

/-- What stands behind a number goes on with nothing that could belong to it. -/
def EndsNumber (rest : Text) : Prop :=
  ∀ c ∈ rest.head?, isDigit c = false ∧ c ≠ '.' ∧ c ≠ 'e' ∧ c ≠ 'E'

/-- Nothing ends a number. -/
theorem endsNumber_nil : EndsNumber [] := fun _ nothing => absurd nothing (Option.not_mem_none _)

/-- A character that cannot belong to a number ends it. -/
theorem endsNumber_cons (other : isDigit c = false ∧ c ≠ '.' ∧ c ≠ 'e' ∧ c ≠ 'E') (rest : Text) :
    EndsNumber (c :: rest) := by
  intro d first
  obtain rfl := Option.some.inj first
  exact other

/-- A comma ends a number. -/
theorem endsNumber_comma (rest : Text) : EndsNumber (',' :: rest) :=
  endsNumber_cons (by decide) rest

/-- The digits of a number are read as the whole part of one. -/
theorem readWhole_ofNat (n : Nat) (ended : ∀ c ∈ rest.head?, isDigit c = false) :
    readWhole (Text.ofNat n ++ rest) = .ok (Text.ofNat n, rest) := by
  rw [readWhole, takeDigits_append (fun c => isDigit_of_mem_ofNat) ended]
  split
  · -- A number has at least one digit.
    next none => exact absurd (Prod.mk.inj none).1 Nat.toDigits_ne_nil
  · next zero =>
    -- Only zero has a leading zero, and it is the only digit of zero.
    have digits := (Prod.mk.inj zero).1
    rcases Nat.eq_zero_or_pos n with rfl | positive
    · cases digits
    · exact absurd (congrArg List.head? digits) (head?_ofNat_ne_zero positive)
  · next same =>
    obtain ⟨rfl, rfl⟩ := Prod.mk.inj same
    rfl

/-- Without a point there is no fraction. -/
theorem readFraction_of_endsNumber (ended : EndsNumber rest) :
    readFraction rest = .ok (none, rest) := by
  -- A point would belong to the number.
  cases rest with
  | nil => rfl
  | cons c rest =>
    obtain ⟨-, noPoint, -⟩ := ended c rfl
    rw [readFraction.eq_def]
    split
    · next same => exact absurd (List.cons.inj same).1 noPoint
    · rfl

/-- Without a mark there is no exponent. -/
theorem readExponent_of_endsNumber (ended : EndsNumber rest) :
    readExponent rest = .ok (none, rest) := by
  -- So would a mark in either case.
  cases rest with
  | nil => rfl
  | cons c rest =>
    obtain ⟨-, -, noSmall, noCapital⟩ := ended c rfl
    simp [readExponent, noSmall, noCapital]

/-- The digits of a number are read as a number without a point and an exponent. -/
theorem readNumber_ofNat (negative : Bool) (n : Nat) (ended : EndsNumber rest) :
    readNumber negative (Text.ofNat n ++ rest) =
      .ok (⟨negative, Text.ofNat n, [], false, none⟩, rest) := by
  rw [readNumber, readWhole_ofNat n fun c first => (ended c first).1]
  simp [readFraction_of_endsNumber ended, readExponent_of_endsNumber ended, Bind.bind, Except.bind,
    Pure.pure, Except.pure]

/-- Digits without a sign are read as the integer that they spell if it fits into 64 bits. -/
theorem readNumberNode_nonnegative (fits : n ≤ integerLimit) (ended : EndsNumber rest) :
    readNumberNode false (Text.ofNat n ++ rest) = (.number (.ok (.integer n)), some rest) := by
  -- The parts of such a number are its digits alone.
  have value : (⟨false, Text.ofNat n, [], false, none⟩ : NumberParts).value =
      .ok (.integer n) := by
    simp [NumberParts.value, digitsValue_ofNat, fits]
  simp only [readNumberNode, readNumber_ofNat false n ended, value]

/-- Digits behind a minus sign are read as the negative integer that they spell if it fits into 64
bits. -/
theorem readNumberNode_negative (positive : 0 < n) (fits : n ≤ Nat.pow 2 63)
    (ended : EndsNumber rest) :
    readNumberNode true (Text.ofNat n ++ rest) = (.number (.ok (.integer (-n))), some rest) := by
  -- Minus zero would be a float.
  have bounds : 0 < n ∧ n ≤ Nat.pow 2 63 := ⟨positive, fits⟩
  have value : (⟨true, Text.ofNat n, [], false, none⟩ : NumberParts).value =
      .ok (.integer (-n)) := by
    simp only [NumberParts.value, digitsValue_ofNat, Bool.false_eq_true, if_false, if_true,
      Bool.and_eq_true, decide_eq_true_eq, if_pos bounds]
  simp only [readNumberNode, readNumber_ofNat true n ended, value]

end TokenGuard.Json
