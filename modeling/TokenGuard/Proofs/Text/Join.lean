import TokenGuard.Text.Basic

/-! Pieces that are joined by a separator: where they stand and how long they are together. -/

namespace TokenGuard.Text

variable {separator piece : Text} {pieces : List Text}

/-- The first piece is joined to the others by a separator. -/
theorem join_cons_cons (separator piece other : Text) (pieces : List Text) :
    join separator (piece :: other :: pieces) =
      piece ++ (separator ++ join separator (other :: pieces)) :=
  List.append_assoc piece separator _

/-- What is joined starts with the first piece. -/
theorem exists_join_cons (separator piece : Text) (pieces : List Text) :
    ∃ tail, join separator (piece :: pieces) = piece ++ tail := by
  cases pieces with
  | nil => exact ⟨[], (List.append_nil piece).symm⟩
  | cons other pieces => exact ⟨_, join_cons_cons separator piece other pieces⟩

/-- Pieces that are written with a separator between neighbours are joined by it. -/
theorem eq_join {α : Type} (write : List α → Text) (each : α → Text)
    (none : write [] = []) (one : ∀ part, write [part] = each part)
    (more : ∀ part other parts,
      write (part :: other :: parts) = each part ++ separator ++ write (other :: parts))
    (parts : List α) : write parts = join separator (parts.map each) := by
  induction parts with
  | nil => exact none
  | cons part parts ih =>
    cases parts with
    | nil => exact one part
    | cons other parts =>
      rw [more, ih]
      rfl

/-- No piece is longer than what the pieces are joined to. -/
theorem length_le_length_join (member : piece ∈ pieces) :
    piece.length ≤ (join separator pieces).length := by
  induction pieces with
  | nil => cases member
  | cons first pieces ih =>
    cases pieces with
    | nil =>
      rw [List.mem_singleton.mp member]
      exact Nat.le_refl _
    | cons other pieces =>
      rw [join_cons_cons, List.length_append, List.length_append]
      -- The piece is the first one or one of those behind the separator.
      rcases List.mem_cons.mp member with isFirst | later
      · rw [isFirst]
        omega
      · have shorter := ih later
        omega

/-- A separator with a character stands between any two pieces, so there is at most one piece more
than there are characters in what they are joined to. -/
theorem length_le_length_join_succ (filled : separator ≠ []) (pieces : List Text) :
    pieces.length ≤ (join separator pieces).length + 1 := by
  have character : 0 < separator.length := List.length_pos_iff.mpr filled
  -- Each further piece brings at least the one character of its separator.
  induction pieces with
  | nil => exact Nat.zero_le _
  | cons first pieces ih =>
    cases pieces with
    | nil => exact Nat.le_add_left 1 _
    | cons other pieces =>
      rw [join_cons_cons, List.length_append, List.length_append, List.length_cons]
      omega

end TokenGuard.Text
