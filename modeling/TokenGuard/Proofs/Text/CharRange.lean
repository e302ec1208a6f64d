import TokenGuard.Text.Blank
import TokenGuard.Text.DecimalDigit

/-! Ranges that lie apart have no character in common. -/

namespace TokenGuard

variable {c : Char} {left right : List CharRange}

/-- A covered character lies in one of the ranges. -/
theorem CharRange.exists_mem_of_covers (covered : covers left c = true) :
    ∃ range ∈ left, range.1 ≤ c.toNat ∧ c.toNat ≤ range.2 := by
  -- The search ends at a range that covers the character or goes on to a later one.
  induction left with
  | nil => simp [covers] at covered
  | cons range ranges ih =>
    simp only [covers, Bool.and_eq_true, Bool.or_eq_true, decide_eq_true_eq] at covered
    obtain ⟨low, high | later⟩ := covered
    · exact ⟨range, by simp, low, high⟩
    · obtain ⟨other, member, within⟩ := ih later
      exact ⟨other, by simp [member], within⟩

/-- A character in one of some ranges is in none that lie apart from them. -/
theorem CharRange.not_covers_of_apart
    (apart : ∀ l ∈ left, ∀ r ∈ right, l.2 < r.1 ∨ r.2 < l.1) (covered : covers left c = true) :
    covers right c = false := by
  -- A character in two ranges would make them overlap.
  refine Bool.eq_false_iff.mpr fun both => ?_
  obtain ⟨l, ofLeft, lowLeft, highLeft⟩ := exists_mem_of_covers covered
  obtain ⟨r, ofRight, lowRight, highRight⟩ := exists_mem_of_covers both
  rcases apart l ofLeft r ofRight with before | behind <;> omega

/-- No blank is a digit of any script. -/
theorem isDecimalDigit_of_isBlank (blank : isBlank c = true) : isDecimalDigit c = false :=
  CharRange.not_covers_of_apart (by decide) blank

/-- The number of an ASCII letter or digit lies in one of three ranges. -/
theorem toNat_of_isAlphanum (alphanumeric : c.isAlphanum = true) :
    (65 ≤ c.toNat ∧ c.toNat ≤ 90) ∨ (97 ≤ c.toNat ∧ c.toNat ≤ 122) ∨
      (48 ≤ c.toNat ∧ c.toNat ≤ 57) := by
  rcases Bool.or_eq_true_iff.mp alphanumeric with letter | digit
  · rcases Bool.or_eq_true_iff.mp letter with upper | lower
    · exact .inl (of_decide_eq_true upper)
    · obtain ⟨low, high⟩ := Bool.and_eq_true_iff.mp lower
      exact .inr (.inl ⟨of_decide_eq_true low, of_decide_eq_true high⟩)
  · obtain ⟨low, high⟩ := Bool.and_eq_true_iff.mp digit
    exact .inr (.inr ⟨of_decide_eq_true low, of_decide_eq_true high⟩)

/-- No blank is an ASCII letter or digit. -/
theorem isAlphanum_of_isBlank (blank : isBlank c = true) : c.isAlphanum = false := by
  -- Letters and digits of ASCII lie apart from the ranges of blanks.
  have other : CharRange.covers [(48, 57), (65, 90), (97, 122)] c = false :=
    CharRange.not_covers_of_apart (by decide) blank
  refine Bool.eq_false_iff.mpr fun alphanumeric => ?_
  have within := toNat_of_isAlphanum alphanumeric
  simp only [CharRange.covers, Bool.and_eq_false_iff, Bool.or_eq_false_iff,
    decide_eq_false_iff_not] at other
  omega

end TokenGuard
