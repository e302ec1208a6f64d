import Mathlib.Data.List.Infix
import TokenGuard.Proofs.Text.Rewriting

/-! Texts in which what was found has given way to a new text, one piece after the other. What is
found in such a text was there before, or it overlaps or touches a single new text. -/

namespace TokenGuard

open Text (lastOr lastOr_append lastOr_cons)

/-- What is looked for in a text: a piece of it that stands between two neighbours. -/
abbrev Target := Option Char → Text → Option Char → Prop

namespace Target

variable {target later earlier : Target}
  {new text text' front back left middle right piece : Text}
  {previous next : Option Char} {c : Char}

/-- A piece that is looked for occurs in a text between two neighbours. -/
def Occurs (target : Target) (previous : Option Char) (text : Text) (next : Option Char) : Prop :=
  ∃ left piece right, text = left ++ (piece ++ right) ∧
    target (lastOr previous left) piece (right.head?.or next)

/-- What occurs in the first of two texts occurs in both together. -/
theorem Occurs.append_right (occurs : target.Occurs previous front (back.head?.or next)) :
    target.Occurs previous (front ++ back) next := by
  obtain ⟨left, piece, right, rfl, found⟩ := occurs
  refine ⟨left, piece, right ++ back, by simp, ?_⟩
  rwa [List.head?_append, Option.or_assoc]

/-- A piece that is looked for overlaps a text between two others, or stands right beside it. -/
def Reaches (target : Target) (previous : Option Char) (left middle right : Text) : Prop :=
  ∃ front piece behind, left ++ (middle ++ right) = front ++ (piece ++ behind) ∧
    target (lastOr previous front) piece behind.head? ∧
    front.length ≤ left.length + middle.length ∧ left.length ≤ front.length + piece.length

/-- What reaches a text in the middle occurs in the whole text. -/
theorem Reaches.occurs (reaches : target.Reaches previous left middle right) :
    target.Occurs previous (left ++ (middle ++ right)) none := by
  obtain ⟨front, piece, behind, same, found, -, -⟩ := reaches
  exact ⟨front, piece, behind, same, by simpa using found⟩

/-- No piece that is looked for starts in a gap before a text. -/
def Skips (target : Target) (previous : Option Char) (gap text : Text) : Prop :=
  ∀ left piece right, gap ++ text = left ++ (piece ++ right) →
    target (lastOr previous left) piece right.head? → gap.length ≤ left.length

/-- A text with a new text in place of the pieces that were found in it from left to right, and
nothing to be found in the gaps between them. -/
inductive Patched (target : Target) (new : Text) : Option Char → Text → Text → Prop
  /-- The gap at the end is kept. -/
  | last {previous : Option Char} {gap : Text} (clean : ¬ target.Occurs previous gap none) :
      Patched target new previous gap gap
  /-- A gap is kept, and what is found behind it is replaced. -/
  | next {previous : Option Char} {gap old rest rest' : Text} (filled : old ≠ [])
      (skips : target.Skips previous gap (old ++ rest))
      (found : target (lastOr previous gap) old rest.head?)
      (tail : Patched target new (lastOr previous (gap ++ old)) rest rest') :
      Patched target new previous (gap ++ (old ++ rest)) (gap ++ (new ++ rest'))

/-- A character is kept where nothing is found. -/
theorem Patched.cons
    (absent : ∀ piece right, c :: text = piece ++ right → ¬ target previous piece right.head?)
    (tail : Patched target new (some c) text text') :
    Patched target new previous (c :: text) (c :: text') := by
  cases tail with
  | last clean =>
    refine .last ?_
    rintro ⟨left, piece, right, same, found⟩
    cases left with
    | nil => exact absent piece right same (by simpa [lastOr] using found)
    | cons d left =>
      obtain ⟨rfl, rfl⟩ := List.cons.inj same
      exact clean ⟨left, piece, right, rfl, lastOr_cons previous c left ▸ found⟩
  | @next _ gap old rest rest' filled skips found tail =>
    rw [← List.cons_append, ← List.cons_append]
    refine .next filled ?_ (lastOr_cons previous c gap ▸ found) ?_
    · intro left piece right same isFound
      cases left with
      | nil => exact absurd isFound (absent piece right same)
      | cons d left =>
        obtain ⟨rfl, rest⟩ : c = d ∧ gap ++ (old ++ rest) = left ++ (piece ++ right) :=
          List.cons.inj same
        exact Nat.succ_le_succ (skips left piece right rest (lastOr_cons previous c left ▸ isFound))
    · rwa [List.cons_append, lastOr_cons]

section Clear

/-- An end of the first text is where the second one starts. -/
def Meets (front back : Text) : Prop :=
  ∃ shared ∈ front.tails, shared ≠ [] ∧ (shared <+: back ∨ back <+: shared)

instance (front back : Text) : Decidable (Meets front back) :=
  inferInstanceAs (Decidable (∃ shared ∈ front.tails,
    shared ≠ [] ∧ (shared <+: back ∨ back <+: shared)))

/-- A piece that a new text does not meet stands before it or behind it. -/
theorem before_or_behind {behind : Text} (apart : ¬ Meets piece new) (apart' : ¬ Meets new piece)
    (same : left ++ (new ++ right) = front ++ (piece ++ behind)) :
    (∃ between, left = front ++ (piece ++ between) ∧ behind = between ++ (new ++ right)) ∨
      ∃ between, right = between ++ (piece ++ behind) ∧ front = left ++ (new ++ between) := by
  rcases List.append_eq_append_iff.mp same with ⟨more, rfl, divided⟩ | ⟨more, rfl, divided⟩
  · -- The piece starts in the new text or behind it.
    rcases List.append_eq_append_iff.mp divided with ⟨between, rfl, later⟩ | ⟨tail, rfl, later⟩
    · exact .inr ⟨between, later, rfl⟩
    · cases tail with
      | nil => exact .inr ⟨[], later.symm, by simp⟩
      | cons c tail =>
        exact absurd ⟨c :: tail, (List.mem_tails _ _).mpr (List.suffix_append _ _), by simp,
          List.prefix_or_prefix_of_prefix ⟨_, later.symm⟩ (List.prefix_append _ _)⟩ apart'
  · -- The piece starts before the new text, and ends there as well.
    rcases List.append_eq_append_iff.mp divided with ⟨between, rfl, later⟩ | ⟨tail, rfl, later⟩
    · exact .inl ⟨between, rfl, later⟩
    · cases tail with
      | nil => exact .inl ⟨[], by simp, later.symm⟩
      | cons c tail =>
        exact absurd ⟨c :: tail, (List.mem_tails _ _).mpr (List.suffix_append _ _), by simp,
          List.prefix_or_prefix_of_prefix ⟨_, later.symm⟩ (List.prefix_append _ _)⟩ apart

/-- The new text of one target keeps clear of what another one finds: it has no character in common
with a piece that is found, and beside it nothing is found that was not found beside the old
one. -/
structure Clear (later : Target) (new : Text) (earlier : Target) : Prop where
  filled : new ≠ []
  taken : ∀ {previous next}, ¬ later previous [] next
  apart : ∀ {previous piece next}, earlier previous piece next →
    ¬ Meets piece new ∧ ¬ Meets new piece
  closes : ∀ {old previous next}, later previous old next →
    ∀ {before piece}, earlier before piece new.head? → earlier before piece old.head?
  opens : ∀ {old previous next}, later previous old next →
    ∀ {piece after}, earlier new.getLast? piece after → earlier old.getLast? piece after

/-- What is found is not empty. -/
theorem Clear.ne_nil {old : Text} (clear : later.Clear new earlier)
    (found : later previous old next) : old ≠ [] := by
  rintro rfl
  exact clear.taken found

/-- Beside a new text that keeps clear only that is found which stands before the old one or behind
it. -/
theorem Clear.occurs {before : Option Char} {old : Text} (clear : later.Clear new earlier)
    (found : later previous old next)
    (occurs : earlier.Occurs before (left ++ (new ++ right)) none) :
    earlier.Occurs before left old.head? ∨
      earlier.Occurs (lastOr before (left ++ old)) right none := by
  obtain ⟨front, piece, behind, same, isFound⟩ := occurs
  obtain ⟨apart, apart'⟩ := clear.apart isFound
  rcases before_or_behind apart apart' same with ⟨between, rfl, rfl⟩ | ⟨between, rfl, rfl⟩
  · -- The next neighbour is in between, or it is where the new text starts.
    refine .inl ⟨front, piece, between, rfl, ?_⟩
    cases between with
    | nil =>
      refine clear.closes found ?_
      obtain ⟨c, new, rfl⟩ := List.exists_cons_of_ne_nil clear.filled
      exact isFound
    | cons e between => exact isFound
  · -- The previous neighbour is in between, or it is where the new text ends.
    refine .inr ⟨between, piece, behind, rfl, ?_⟩
    rcases List.eq_nil_or_concat between with rfl | ⟨between, e, rfl⟩
    · have atEnd : ∀ {text : Text}, text ≠ [] → lastOr before (left ++ text) = text.getLast? := by
        intro text filled
        obtain ⟨text, last, rfl⟩ := (List.eq_nil_or_concat text).resolve_left filled
        simp [lastOr]
      rw [List.append_nil, atEnd clear.filled] at isFound
      have opened := clear.opens found isFound
      rwa [← atEnd (clear.ne_nil found)] at opened
    · simpa [lastOr, ← List.append_assoc] using isFound

end Clear

end Target

end TokenGuard
