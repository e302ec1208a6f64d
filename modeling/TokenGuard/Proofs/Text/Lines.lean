import TokenGuard.Text.Basic

/-! The pieces of a text between the occurrences of a character: where each of them stands, and what
becomes of them when two texts are put together. -/

namespace TokenGuard.Text

variable {separator : Char} {text piece line : Text} {index number : Nat}

/-- The pieces are those that the library splits a list into. -/
theorem splitAt_eq_splitOn (separator : Char) (text : Text) :
    splitAt separator text = text.splitOn separator := by
  induction text with
  | nil => rfl
  | cons c rest ih =>
    -- A character other than the separator is put in front of the first piece of the rest.
    rw [splitAt, List.splitOn_cons_eq_if_modifyHead, ih]
    by_cases same : c = separator
    · simp [same]
    · obtain ⟨piece, pieces, split⟩ :=
        List.exists_cons_of_ne_nil (List.splitOn_ne_nil separator rest)
      simp [same, split]

/-- The pieces of two texts with the separator between them are the pieces of both. -/
theorem splitAt_append_cons (separator : Char) (left right : Text) :
    splitAt separator (left ++ separator :: right) =
      splitAt separator left ++ splitAt separator right := by
  simp only [splitAt_eq_splitOn, List.splitOn_append_cons_self]

/-- There is one piece more than there are separators. -/
theorem length_splitAt (separator : Char) (text : Text) :
    (splitAt separator text).length = text.count separator + 1 := by
  -- Only the separator opens another piece.
  fun_induction splitAt separator text with
  | case1 => rfl
  | case2 rest ih => simp [ih]
  | case3 c rest different piece pieces split ih =>
    rw [split] at ih
    simpa [List.count_cons_of_ne different] using ih
  | case4 c rest different split ih =>
    rw [split] at ih
    simp at ih

/-- A text without the separator is its only piece. -/
theorem splitAt_of_notMem (single : separator ∉ text) : splitAt separator text = [text] := by
  rw [splitAt_eq_splitOn]
  exact List.splitOn_eq_singleton single

/-- A piece of a text stands between two separators or ends of the text, has no separator in it, and
has as many of them before it as there are pieces before it. -/
def IsPiece (separator : Char) (text piece : Text) (index : Nat) : Prop :=
  ∃ before after, text = before ++ piece ++ after ∧ separator ∉ piece ∧
    before.getLast?.all (· = separator) = true ∧ after.head?.all (· = separator) = true ∧
    before.count separator = index

/-- What stands before a piece is nothing or ends with the separator. -/
theorem eq_nil_or_of_opened {before : Text}
    (opened : before.getLast?.all (· = separator) = true) :
    before = [] ∨ ∃ earlier, before = earlier ++ [separator] := by
  cases last : before.getLast? with
  | none => exact .inl (List.getLast?_eq_none_iff.mp last)
  | some c =>
    obtain ⟨earlier, rfl⟩ := List.getLast?_eq_some_iff.mp last
    obtain rfl : c = separator := by simpa [last] using opened
    exact .inr ⟨earlier, rfl⟩

/-- What stands as a piece of a text is found among the pieces. -/
theorem IsPiece.getElem? (stands : IsPiece separator text piece index) :
    (splitAt separator text)[index]? = some piece := by
  obtain ⟨before, after, rfl, single, opened, closed, rfl⟩ := stands
  -- The text ends behind the piece, or a separator parts it from what follows.
  have first : ∃ pieces, splitAt separator (piece ++ after) = piece :: pieces := by
    cases after with
    | nil => exact ⟨[], by rw [List.append_nil, splitAt_of_notMem single]⟩
    | cons c after =>
      obtain rfl : c = separator := by simpa using closed
      exact ⟨_, by rw [splitAt_append_cons, splitAt_of_notMem single]; rfl⟩
  obtain ⟨pieces, split⟩ := first
  rw [List.append_assoc]
  -- In the same way the text starts with the piece, or a separator parts it from what precedes.
  rcases eq_nil_or_of_opened opened with rfl | ⟨earlier, rfl⟩
  · simp [split]
  · have before : (earlier ++ [separator]).count separator =
        (splitAt separator earlier).length := by
      rw [length_splitAt, List.count_append, List.count_singleton_self]
    rw [before, List.append_assoc, List.singleton_append, splitAt_append_cons,
      List.getElem?_append_right (Nat.le_refl _), split]
    simp

/-- At the start of a text that is over or goes on with the separator stands an empty piece. -/
theorem isPiece_nil (closed : text.head?.all (· = separator) = true) :
    IsPiece separator text [] 0 :=
  ⟨[], text, rfl, List.not_mem_nil, rfl, closed, rfl⟩

/-- Behind one more separator a piece has one more before it. -/
theorem IsPiece.cons_separator (stands : IsPiece separator text piece index) :
    IsPiece separator (separator :: text) piece (index + 1) := by
  obtain ⟨before, after, rfl, single, opened, closed, rfl⟩ := stands
  refine ⟨separator :: before, after, rfl, single, ?_, closed, List.count_cons_self⟩
  cases before with
  | nil => simp
  | cons c before => simpa using opened

/-- Any other character makes the first piece longer. -/
theorem IsPiece.cons_first {c : Char} (stands : IsPiece separator text piece 0)
    (different : c ≠ separator) : IsPiece separator (c :: text) (c :: piece) 0 := by
  obtain ⟨before, after, rfl, single, opened, closed, none⟩ := stands
  -- Without a separator there is nothing before the piece.
  rcases eq_nil_or_of_opened opened with rfl | ⟨earlier, rfl⟩
  · exact ⟨[], after, rfl, by simpa [Ne.symm different] using single, rfl, closed, rfl⟩
  · simp at none

/-- A later piece stands where it was behind any other character. -/
theorem IsPiece.cons_later {c : Char} (stands : IsPiece separator text piece (index + 1))
    (different : c ≠ separator) : IsPiece separator (c :: text) piece (index + 1) := by
  -- A later piece has a separator before it, so the new first character is not its neighbour.
  obtain ⟨before, after, rfl, single, opened, closed, count⟩ := stands
  refine ⟨c :: before, after, rfl, single, ?_, closed, ?_⟩
  · cases before with
    | nil => simp at count
    | cons d before => simpa using opened
  · rw [List.count_cons_of_ne different, count]

/-- What is found among the pieces of a text stands as a piece of it. -/
theorem isPiece_of_getElem? (found : (splitAt separator text)[index]? = some piece) :
    IsPiece separator text piece index := by
  -- The separator opens a new piece, and any other character belongs to the first one.
  fun_induction splitAt separator text generalizing index piece with
  | case1 =>
    obtain ⟨rfl, rfl⟩ : index = 0 ∧ [] = piece := by cases index <;> simp_all
    exact isPiece_nil rfl
  | case2 rest ih =>
    cases index with
    | zero =>
      obtain rfl : [] = piece := by simpa using found
      exact isPiece_nil (by simp)
    | succ index => exact (ih (by simpa using found)).cons_separator
  | case3 c rest different first pieces split ih =>
    cases index with
    | zero =>
      obtain rfl : c :: first = piece := by simpa using found
      exact (ih (by simp [split])).cons_first different
    | succ index => exact (ih (by simpa [split] using found)).cons_later different
  | case4 c rest different split =>
    have some := length_splitAt separator rest
    simp [split] at some

/-- The pieces of a text are told by where they stand. -/
theorem getElem?_splitAt_iff :
    (splitAt separator text)[index]? = some piece ↔ IsPiece separator text piece index :=
  ⟨isPiece_of_getElem?, IsPiece.getElem?⟩

/-- A line of a text by its number: it stands between two line feeds or ends of the text, and its
number is one more than the number of line feeds before it. -/
def IsLine (text line : Text) (number : Nat) : Prop :=
  ∃ index, IsPiece '\n' text line index ∧ number = index + 1

end TokenGuard.Text
