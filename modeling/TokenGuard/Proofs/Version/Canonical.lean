import TokenGuard.Proofs.Decimal.Digit
import TokenGuard.Proofs.Except
import TokenGuard.Version

/-! An accepted version is the one text of its parts: displaying it gives the text back. -/

namespace TokenGuard.Version

variable {part : Part} {mark : Char} {n total : Nat} {text rest identifier : Text}
  {version : Version}

/-- Digits that are read behind others are those that the number has behind them. -/
theorem readDigits_started (read : readDigits part true total text = .ok (n, rest)) :
    ∃ digits, text = digits ++ rest ∧ Text.ofNat n = Text.ofNat total ++ digits := by
  -- What was read so far is displayed in front of the digits that are still to come.
  induction text generalizing total with
  | nil =>
    obtain ⟨rfl, rfl⟩ : total = n ∧ [] = rest := by simpa [readDigits] using read
    exact ⟨[], rfl, by simp⟩
  | cons c text ih =>
    rw [readDigits] at read
    split at read
    · next digit =>
      -- No digit stands behind a zero, so the ones that were read are those of a number.
      split at read
      · cases read
      · next positive =>
        split at read
        · cases read
        · obtain ⟨digits, rfl, spelled⟩ := ih read
          have positive : 0 < total := by simpa [Nat.pos_iff_ne_zero] using positive
          refine ⟨c :: digits, rfl, ?_⟩
          rw [spelled, Text.ofNat, Nat.mul_comm, toDigits_mul_add_digitValue positive digit]
          simp [Text.ofNat]
    · obtain ⟨rfl, rfl⟩ : total = n ∧ c :: text = rest := by simpa using read
      exact ⟨[], rfl, by simp⟩

/-- A number is read from the digits that it is displayed as. -/
theorem eq_of_readDigits (read : readDigits part false 0 text = .ok (n, rest)) :
    text = Text.ofNat n ++ rest := by
  -- The first digit is the number so far, and the others are read behind it.
  cases text with
  | nil => simp [readDigits] at read
  | cons c text =>
    rw [readDigits] at read
    split at read
    · next digit =>
      simp only [Bool.false_and, Bool.false_eq_true, if_false] at read
      split at read
      · cases read
      · obtain ⟨digits, rfl, spelled⟩ := readDigits_started read
        rw [spelled, Nat.zero_mul, Nat.zero_add, Text.ofNat, toDigits_digitValue digit]
        rfl
    · simp at read

/-- A dot is read from a dot. -/
theorem eq_of_readDot (read : readDot part text = .ok rest) : text = '.' :: rest := by
  cases text with
  | nil => simp [readDot] at read
  | cons c text =>
    rw [readDot] at read
    split at read
    · next isDot => rw [isDot, Except.ok.inj read]
    · cases read

/-- Segments are read as they stand. -/
theorem eq_of_readSegments {first : Bool}
    (read : readSegments part first text = .ok (identifier, rest)) :
    text = identifier ++ rest := by
  fun_induction readSegments part first text generalizing identifier rest with
  | case1 =>
    -- Where there is no segment at all, nothing has been read.
    next text segment behind blank ending =>
      obtain ⟨rfl, rfl⟩ : [] = identifier ∧ behind = rest := by simpa using read
      have none : text.takeWhile isIdentifierChar = [] := List.isEmpty_iff.mp blank
      rw [← List.takeWhile_append_dropWhile (p := isIdentifierChar) (l := text), none]
  | case2 => cases read
  | case3 => cases read
  | case4 =>
    next text segment behind _ _ after atDot ih =>
      obtain ⟨⟨others, rest⟩, inner, same⟩ := bind_eq_ok_iff.mp read
      obtain ⟨rfl, rfl⟩ := Prod.mk.inj (Except.ok.inj same)
      have divided : segment ++ behind = text := List.takeWhile_append_dropWhile
      rw [← divided, atDot, ih inner]
      simp
  | case5 =>
    next text segment behind _ _ _ =>
      obtain ⟨rfl, rfl⟩ : segment = identifier ∧ behind = rest := by simpa using read
      exact List.takeWhile_append_dropWhile.symm

/-- An identifier is read from its mark and itself, and none from nothing. -/
theorem eq_of_readIdentifier (read : readIdentifier part mark text = .ok (identifier, rest)) :
    text = (if identifier.isEmpty then [] else mark :: identifier) ++ rest := by
  cases text with
  | nil =>
    obtain ⟨rfl, rfl⟩ : [] = identifier ∧ [] = rest := by simpa [readIdentifier] using read
    rfl
  | cons c text =>
    rw [readIdentifier] at read
    split at read
    · next isMark =>
      obtain ⟨⟨found, behind⟩, inner, same⟩ := bind_eq_ok_iff.mp read
      -- A mark without an identifier behind it is rejected.
      by_cases blank : found.isEmpty = true
      · simp [blank] at same
        cases same
      · simp only [blank] at same
        obtain ⟨rfl, rfl⟩ := Prod.mk.inj (Except.ok.inj same)
        rw [if_neg blank, isMark, eq_of_readSegments inner]
        rfl
    · obtain ⟨rfl, rfl⟩ : [] = identifier ∧ c :: text = rest := by simpa using read
      rfl

/-- An accepted text is what its version is displayed as. -/
theorem toText_of_ofText (accepted : ofText text = .ok version) : version.toText = text := by
  unfold ofText at accepted
  split at accepted
  · cases accepted
  · -- Each part is read from the text that the parts before it leave.
    obtain ⟨⟨major, _⟩, readMajor, accepted⟩ := bind_eq_ok_iff.mp accepted
    obtain ⟨_, majorDot, accepted⟩ := bind_eq_ok_iff.mp accepted
    obtain ⟨⟨minor, _⟩, readMinor, accepted⟩ := bind_eq_ok_iff.mp accepted
    obtain ⟨_, minorDot, accepted⟩ := bind_eq_ok_iff.mp accepted
    obtain ⟨⟨patch, _⟩, readPatch, accepted⟩ := bind_eq_ok_iff.mp accepted
    obtain ⟨⟨pre, _⟩, readPre, accepted⟩ := bind_eq_ok_iff.mp accepted
    obtain ⟨⟨build, left⟩, readBuild, accepted⟩ := bind_eq_ok_iff.mp accepted
    cases left with
    | cons c left => cases accepted
    | nil =>
      obtain rfl := Except.ok.inj accepted
      rw [eq_of_readDigits readMajor, eq_of_readDot majorDot, eq_of_readDigits readMinor,
        eq_of_readDot minorDot, eq_of_readDigits readPatch, eq_of_readIdentifier readPre,
        eq_of_readIdentifier readBuild]
      simp [toText]

end TokenGuard.Version
