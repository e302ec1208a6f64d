import TokenGuard.Json.Quoted

/-! A text that is written as a JSON string is read back, so that the string tells the text. -/

namespace TokenGuard.Json

variable {c : Char} {left right text rest behind : Text}

/-- The digits of a control character spell its number. -/
theorem hexNumber?_control (control : c.toNat < 0x20) :
    hexNumber? ['0', '0', Nat.digitChar (c.toNat / 16), Nat.digitChar (c.toNat % 16)] =
      some c.toNat := by
  -- There are few enough control characters to look at each of them.
  have each : ∀ n : Fin 32, hexNumber?
      ['0', '0', Nat.digitChar (n.val / 16), Nat.digitChar (n.val % 16)] = some n.val := by
    decide +kernel
  exact each ⟨c.toNat, control⟩

/-- A control character is no surrogate, so nothing has to follow its escape. -/
theorem joinSurrogate_control (control : c.toNat < 0x20) :
    joinSurrogate none c.toNat = .ok ([c], none) := by
  -- Surrogates have greater numbers.
  have notTrailing : isTrailingSurrogate c.toNat = false := by
    simp [isTrailingSurrogate]
    omega
  have notLeading : isLeadingSurrogate c.toNat = false := by
    simp [isLeadingSurrogate]
    omega
  simp [joinSurrogate, notTrailing, notLeading, Char.ofNat_toNat]

/-- A simple escape is read as the character that it stands for. -/
theorem readString_simple {e : Char} (stands : simpleEscape? e = some c) (rest : Text) :
    readString none ('\\' :: e :: rest) =
      (readString none rest).map fun (text, behind) => (c :: text, behind) := by
  have other : e ≠ 'u' := by rintro rfl; simp [simpleEscape?] at stands
  rw [readString.eq_def]
  simp only [if_pos, if_neg other, stands, Option.isSome_none, Bool.false_eq_true, if_false]
  cases readString none rest <;> rfl

/-- The escape of a control character is read as that character. -/
theorem readString_controlEscape (control : c.toNat < 0x20) (rest : Text) :
    readString none (controlEscape c ++ rest) =
      (readString none rest).map fun (text, behind) => (c :: text, behind) := by
  have spelled : controlEscape c ++ rest = '\\' :: 'u' :: '0' :: '0' ::
      Nat.digitChar (c.toNat / 16) :: Nat.digitChar (c.toNat % 16) :: rest := rfl
  rw [spelled, readString]
  simp only [if_pos, hexNumber?_control control, joinSurrogate_control control, Bind.bind,
    Except.bind]
  cases readString none rest <;> rfl

/-- A character without an escape is read as itself. -/
theorem readString_plain (noEscape : c ≠ '\\') (noQuote : c ≠ '"') (noControl : ¬ c.toNat < 0x20)
    (rest : Text) :
    readString none (c :: rest) =
      (readString none rest).map fun (text, behind) => (c :: text, behind) := by
  rw [readString.eq_def]
  simp only [if_neg noEscape, if_neg noQuote, if_neg noControl, Option.isSome_none,
    Bool.false_eq_true, if_false]
  cases readString none rest <;> rfl

/-- An escaped character is read as itself, and what follows it is read on. -/
theorem readString_escapeChar (c : Char) (rest : Text) :
    readString none (escapeChar c ++ rest) =
      (readString none rest).map fun (text, behind) => (c :: text, behind) := by
  -- Seven characters have an escape of their own, and other control characters a general one.
  unfold escapeChar
  iterate 7
    split
    · next same => exact readString_simple (by simp [simpleEscape?, same]) rest
  split
  · next control => exact readString_controlEscape control rest
  · next noQuote noEscape _ _ _ _ _ noControl =>
    exact readString_plain noEscape noQuote noControl rest

/-- A written text is read up to the quote that closes it. -/
theorem readString_flatMap_escapeChar (text rest : Text) :
    readString none (text.flatMap escapeChar ++ '"' :: rest) = .ok (text, rest) := by
  -- Character by character, up to the quote, which no escaped character starts with.
  induction text with
  | nil => rw [List.flatMap_nil, List.nil_append, readString.eq_def]; rfl
  | cons c text ih => rw [List.flatMap_cons, List.append_assoc, readString_escapeChar, ih]; rfl

/-- A simple escape is passed over. -/
theorem skipString_simple {e : Char} (known : (simpleEscape? e).isSome = true) (rest : Text) :
    skipString ('\\' :: e :: rest) = skipString rest := by
  have other : e ≠ 'u' := by
    intro same
    simp [same, simpleEscape?] at known
  rw [skipString.eq_def]
  simp only [if_pos, if_neg other, known]

/-- The escape of a control character is passed over. -/
theorem skipString_controlEscape (control : c.toNat < 0x20) (rest : Text) :
    skipString (controlEscape c ++ rest) = skipString rest := by
  have spelled : controlEscape c ++ rest = '\\' :: 'u' :: '0' :: '0' ::
      Nat.digitChar (c.toNat / 16) :: Nat.digitChar (c.toNat % 16) :: rest := rfl
  rw [spelled, skipString]
  simp only [if_pos, hexNumber?_control control, Option.isSome_some]

/-- A character without an escape is passed over. -/
theorem skipString_plain (noEscape : c ≠ '\\') (noQuote : c ≠ '"') (noControl : ¬ c.toNat < 0x20)
    (rest : Text) : skipString (c :: rest) = skipString rest := by
  rw [skipString.eq_def]
  simp only [if_neg noEscape, if_neg noQuote, if_neg noControl]

/-- An escaped character is passed over. -/
theorem skipString_escapeChar (c : Char) (rest : Text) :
    skipString (escapeChar c ++ rest) = skipString rest := by
  -- The cases are those in which the character is written.
  unfold escapeChar
  iterate 7
    split
    · exact skipString_simple (by simp [simpleEscape?]) rest
  split
  · next control => exact skipString_controlEscape control rest
  · next noQuote noEscape _ _ _ _ _ noControl =>
    exact skipString_plain noEscape noQuote noControl rest

/-- A written text is passed over up to the quote that closes it. -/
theorem skipString_flatMap_escapeChar (text rest : Text) :
    skipString (text.flatMap escapeChar ++ '"' :: rest) = .ok rest := by
  -- As for reading, but nothing is kept.
  induction text with
  | nil =>
    rw [List.flatMap_nil, List.nil_append, skipString.eq_def]
    rfl
  | cons c text ih => rw [List.flatMap_cons, List.append_assoc, skipString_escapeChar, ih]

/-- A string tells the text that it stands for, and where it ends. -/
theorem encodeString_append_inj
    (same : encodeString left ++ rest = encodeString right ++ behind) :
    left = right ∧ rest = behind := by
  -- Reading what stands behind the opening quote gives both.
  have inside : left.flatMap escapeChar ++ '"' :: rest =
      right.flatMap escapeChar ++ '"' :: behind := by
    simpa [encodeString] using same
  have read := readString_flatMap_escapeChar left rest
  rw [inside, readString_flatMap_escapeChar] at read
  simpa [eq_comm] using read

end TokenGuard.Json
