import TokenGuard.Text.Basic

/-! A text is cut at the first occurrence of a part, and only a text without the part is not cut. -/

namespace TokenGuard

namespace Text

/-- A text does not start with a part exactly if nothing is left behind it. -/
theorem dropPrefix?_eq_none_iff {part text : Text} :
    dropPrefix? part text = none ↔ ¬ part <+: text := by
  -- A part at the start is what makes something be left.
  constructor
  · rintro nothing ⟨after, rfl⟩
    simp [dropPrefix?_eq_some_iff.mpr rfl] at nothing
  · intro other
    cases found : dropPrefix? part text with
    | none => rfl
    | some after => exact absurd ⟨after, (dropPrefix?_eq_some_iff.mp found).symm⟩ other

/-- A text is not cut exactly if the part does not occur. -/
theorem cut?_eq_none_iff {part text : Text} : cut? part text = none ↔ ¬ part <:+: text := by
  -- An occurrence either starts the text or lies behind its first character.
  induction text with
  | nil => simp [cut?]
  | cons c rest ih =>
    rw [List.infix_cons_iff, cut?]
    cases found : dropPrefix? part (c :: rest) with
    | none => simp [ih, dropPrefix?_eq_none_iff.mp found]
    | some after => simp [dropPrefix?_eq_some_iff.mp found]

/-- A part occurs exactly if it is a piece of the text. -/
theorem occursIn_iff {part text : Text} : occursIn part text = true ↔ part <:+: text := by
  have nowhere : cut? part text = none ↔ ¬ part <:+: text := cut?_eq_none_iff
  cases found : cut? part text <;> simp_all [occursIn]

/-- No occurrence of a part starts before the one at which the text is cut. -/
theorem length_le_of_cut? {part text before after left right : Text}
    (found : cut? part text = some (before, after)) (other : text = left ++ part ++ right) :
    before.length ≤ left.length := by
  -- Up to the cut the part starts nowhere, so the other occurrence is behind every character of it.
  induction text generalizing before left with
  | nil =>
    obtain ⟨-, rfl, -⟩ : part = [] ∧ [] = before ∧ [] = after := by simpa [cut?] using found
    simp
  | cons c rest ih =>
    rw [cut?] at found
    cases atStart : dropPrefix? part (c :: rest) with
    | some behind =>
      simp only [atStart, Option.some.injEq, Prod.mk.injEq] at found
      simp [← found.1]
    | none =>
      simp only [atStart, Option.map_eq_some_iff, Prod.mk.injEq] at found
      obtain ⟨⟨inner, behind⟩, found, rfl, rfl⟩ := found
      cases left with
      | nil => exact absurd ⟨right, by simpa using other.symm⟩ (dropPrefix?_eq_none_iff.mp atStart)
      | cons first left =>
        have other : rest = left ++ part ++ right := by simpa using (List.cons.inj other).2
        simpa using ih found other

/-- A text is cut exactly at the first occurrence of a part. -/
theorem cut?_eq_some_iff {part text before after : Text} :
    cut? part text = some (before, after) ↔
      text = before ++ part ++ after ∧
        ∀ left right, text = left ++ part ++ right → before.length ≤ left.length := by
  constructor
  · intro found
    exact ⟨eq_of_cut? found, fun left right other => length_le_of_cut? found other⟩
  · rintro ⟨same, first⟩
    -- The text is cut somewhere, and no two first occurrences start at different places.
    cases found : cut? part text with
    | none => exact absurd ⟨before, after, same.symm⟩ (cut?_eq_none_iff.mp found)
    | some sides =>
      obtain ⟨left, right⟩ := sides
      have divided := eq_of_cut? found
      have sameLength : left.length = before.length :=
        Nat.le_antisymm (length_le_of_cut? found same) (first left right divided)
      have parts : left ++ (part ++ right) = before ++ (part ++ after) := by
        rw [← List.append_assoc, ← List.append_assoc, ← divided, ← same]
      obtain ⟨rfl, behind⟩ := List.append_inj parts sameLength
      rw [List.append_cancel_left behind]

/-- An occurrence that starts and ends within a piece of a text occurs in the piece. -/
theorem exists_inside {front piece back left part right : Text}
    (same : front ++ piece ++ back = left ++ part ++ right) (low : front.length ≤ left.length)
    (high : left.length + part.length ≤ front.length + piece.length) :
    ∃ before after, left = front ++ before ∧ piece = before ++ part ++ after := by
  -- What is before the part goes on from the front, and it ends with the part in the piece.
  have leading : front <+: left := List.prefix_of_prefix_length_le
    ⟨piece ++ back, by simpa using same⟩ ⟨part ++ right, by simp⟩ low
  obtain ⟨before, rfl⟩ := leading
  have rest : piece ++ back = (before ++ part) ++ right := by simpa using same
  have ending : before ++ part <+: piece := by
    refine List.prefix_of_prefix_length_le ⟨right, rest.symm⟩ ⟨back, rfl⟩ ?_
    simp only [List.length_append] at high ⊢
    omega
  obtain ⟨after, rfl⟩ := ending
  exact ⟨before, after, rfl, rfl⟩

/-- A part that does not have a certain character lies on one side of it. -/
theorem infix_append_cons_iff {part left right : Text} {c : Char} (free : c ∉ part) :
    part <:+: left ++ c :: right ↔ part <:+: left ∨ part <:+: right := by
  constructor
  · rintro ⟨front, back, same⟩
    rw [List.append_assoc] at same
    -- Between the two sides it would have the character.
    rcases List.append_eq_append_iff.mp same with ⟨more, rfl, rest⟩ | ⟨more, rfl, rest⟩
    · rcases List.append_eq_append_iff.mp rest with ⟨gap, rfl, -⟩ | ⟨gap, rfl, behind⟩
      · exact .inl ⟨front, gap, by simp⟩
      · cases gap with
        | nil => exact .inl ⟨front, [], by simp⟩
        | cons d gap => exact absurd (List.cons.inj behind).1 fun isIt => free (by simp [isIt])
    · cases more with
      | nil =>
        cases part with
        | nil => exact .inl ⟨[], left, rfl⟩
        | cons d part => exact absurd (List.cons.inj rest).1 fun isIt => free (by simp [isIt])
      | cons d more => exact .inr ⟨more, back, by simp [(List.cons.inj rest).2]⟩
  · rintro (inLeft | inRight)
    · exact inLeft.trans (List.prefix_append left (c :: right)).isInfix
    · exact inRight.trans ((List.suffix_cons c right).trans (List.suffix_append left _)).isInfix

/-- A part is not found before the first character that it starts with. -/
theorem infix_append_iff_of_head {part front rest : Text} {c : Char} (starts : part.head? = some c)
    (other : c ∉ front) : part <:+: front ++ rest ↔ part <:+: rest := by
  obtain ⟨part, rfl⟩ := List.head?_eq_some_iff.mp starts
  -- A part cannot start at a character of the front, as none of them is the one it starts with.
  induction front with
  | nil => rfl
  | cons d front ih =>
    simp only [List.mem_cons, not_or] at other
    simp [List.infix_cons_iff, other.1, ih other.2]

/-- A part does not start with a character that comes too late for the rest of the part. -/
theorem not_infix_of_late {part front rest : Text} {c : Char} (fresh : c ∉ front)
    (short : rest.length ≤ part.length) : ¬ c :: part <:+: front ++ rest := by
  rintro ⟨left, right, same⟩
  rw [List.append_assoc] at same
  -- Where the part starts there would have to be the character, or less than the part.
  rcases List.append_eq_append_iff.mp same with ⟨more, rfl, behind⟩ | ⟨more, rfl, behind⟩
  · cases more with
    | nil =>
      have lengths := congrArg List.length behind
      simp only [List.length_append, List.length_cons, List.length_nil] at lengths
      omega
    | cons d more => exact fresh (by simp [(List.cons.inj behind).1])
  · have lengths := congrArg List.length behind
    simp only [List.length_append, List.length_cons] at lengths
    omega

/-- The places where a part occurs, each as the number of characters before it. -/
def places (part text : Text) : List Nat :=
  (List.range text.length).filter fun place => part.isPrefixOf (text.drop place)

/-- A part that is not empty occurs exactly where it stands between what is before and behind it. -/
theorem mem_places_iff {part text : Text} {place : Nat} (filled : part ≠ []) :
    place ∈ places part text ↔
      ∃ left right, text = left ++ part ++ right ∧ left.length = place := by
  simp only [places, List.mem_filter, List.mem_range, List.isPrefixOf_iff_prefix]
  constructor
  · rintro ⟨within, right, behind⟩
    refine ⟨text.take place, right, ?_, List.length_take_of_le (Nat.le_of_lt within)⟩
    rw [List.append_assoc, behind, List.take_append_drop]
  · -- Since the part has a character, it does not start at the end of the text.
    rintro ⟨left, right, rfl, rfl⟩
    have positive : 0 < part.length := List.length_pos_iff.mpr filled
    refine ⟨by simp only [List.length_append]; omega, right, ?_⟩
    rw [List.append_assoc, List.drop_left]

end Text

end TokenGuard
