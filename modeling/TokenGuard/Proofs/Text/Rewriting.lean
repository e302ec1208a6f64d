import TokenGuard.Proofs.Text.Cut
import TokenGuard.Text.Replace

/-! Replacing between acceptable neighbours is one walk over the text, and what can be found in
the result was there before. -/

namespace TokenGuard

namespace Text

variable {part new text rest : Text} {before after : Neighbour} {previous : Option Char}
  {replaced : Replaced} {c : Char}

/-- The last character of a text with a first one is found behind that one. -/
theorem lastOr_cons (previous : Option Char) (c : Char) (text : Text) :
    lastOr previous (c :: text) = lastOr (some c) text := by
  cases text <;> simp [lastOr, List.getLast?_cons]

/-- The last character of two texts is that of the second, seen behind the first. -/
theorem lastOr_append (previous : Option Char) (left right : Text) :
    lastOr previous (left ++ right) = lastOr (lastOr previous left) right := by
  simp [lastOr, List.getLast?_append, Option.or_assoc]

/-- A condition on a place, given by the character before it and the text behind it, holds
somewhere in a text. -/
def Somewhere (holds : Option Char → Text → Prop) (previous : Option Char) (text : Text) : Prop :=
  ∃ skipped rest, text = skipped ++ rest ∧ holds (lastOr previous skipped) rest

/-- A place of a text is its start or one behind its first character. -/
theorem somewhere_cons_iff {holds : Option Char → Text → Prop} :
    Somewhere holds previous (c :: rest) ↔
      holds previous (c :: rest) ∨ Somewhere holds (some c) rest := by
  -- Nothing is skipped before the start, and at least the first character before other places.
  constructor
  · rintro ⟨skipped, found, same, here⟩
    cases skipped with
    | nil =>
      obtain rfl : c :: rest = found := same
      exact .inl here
    | cons d skipped =>
      obtain ⟨rfl, rfl⟩ := List.cons.inj same
      exact .inr ⟨skipped, found, rfl, lastOr_cons previous c skipped ▸ here⟩
  · rintro (here | ⟨skipped, found, rfl, here⟩)
    · exact ⟨[], c :: rest, rfl, here⟩
    · exact ⟨c :: skipped, found, rfl, (lastOr_cons previous c skipped).symm ▸ here⟩

/-- A place of two texts is before a character of the first or one of the second. -/
theorem somewhere_append_iff {holds : Option Char → Text → Prop} {left right : Text} :
    Somewhere holds previous (left ++ right) ↔
      (∃ front back, left = front ++ back ∧ back ≠ [] ∧
        holds (lastOr previous front) (back ++ right)) ∨
      Somewhere holds (lastOr previous left) right := by
  -- A place is walked to character by character.
  induction left generalizing previous with
  | nil => simp [lastOr]
  | cons d left ih =>
    rw [List.cons_append, somewhere_cons_iff, ih, lastOr_cons, ← or_assoc]
    refine or_congr_left ⟨?_, ?_⟩
    · rintro (here | ⟨front, back, rfl, filled, here⟩)
      · exact ⟨[], d :: left, rfl, by simp, here⟩
      · exact ⟨d :: front, back, rfl, filled, (lastOr_cons previous d front).symm ▸ here⟩
    · rintro ⟨front, back, same, filled, here⟩
      cases front with
      | nil =>
        obtain rfl : d :: left = back := same
        exact .inl here
      | cons e front =>
        obtain ⟨rfl, rfl⟩ := List.cons.inj same
        exact .inr ⟨front, back, rfl, filled, lastOr_cons previous d front ▸ here⟩

/-- A text starts with a part whose two neighbours are acceptable. -/
def StartsBounded (part : Text) (before after : Neighbour) (previous : Option Char)
    (text : Text) : Prop :=
  before previous = true ∧ ∃ behind, text = part ++ behind ∧ after behind.head? = true

/-- A part occurs in a text between acceptable neighbours. -/
def StandsIn (part : Text) (before after : Neighbour) (text : Text) : Prop :=
  Somewhere (StartsBounded part before after) none text

/-- A walk from left to right that replaces a part exactly where it finds acceptable
neighbours. -/
inductive Rewritten (part new : Text) (before after : Neighbour) :
    Option Char → Text → Replaced → Prop
  /-- The walk is over at the end of the text. -/
  | done {previous : Option Char} : Rewritten part new before after previous [] ⟨[], 0⟩
  /-- A character is kept where the part does not start. -/
  | keep {previous : Option Char} {c : Char} {rest : Text} {replaced : Replaced}
      (other : ¬ StartsBounded part before after previous (c :: rest))
      (tail : Rewritten part new before after (some c) rest replaced) :
      Rewritten part new before after previous (c :: rest) ⟨c :: replaced.text, replaced.count⟩
  /-- The part is replaced, and the walk goes on behind it. -/
  | swap {previous : Option Char} {rest : Text} {replaced : Replaced}
      (opened : before previous = true) (closed : after rest.head? = true)
      (tail : Rewritten part new before after (lastOr previous part) rest replaced) :
      Rewritten part new before after previous (part ++ rest)
        ⟨new ++ replaced.text, replaced.count + 1⟩

/-- Where no part is replaced the walk keeps the first character. -/
theorem Rewritten.head?_eq (walk : Rewritten part new before after previous text replaced)
    (other : ¬ StartsBounded part before after previous text) :
    replaced.text.head? = text.head? := by
  cases walk with
  | done => rfl
  | keep => rfl
  | @swap _ rest _ opened closed => exact absurd ⟨opened, rest, rfl, closed⟩ other

/-- Characters before which the part does not occur are kept. -/
theorem Rewritten.keepBefore {skipped : Text}
    (first : ∀ left right, skipped ++ rest = left ++ part ++ right → skipped.length ≤ left.length)
    (tail : Rewritten part new before after (lastOr previous skipped) rest replaced) :
    Rewritten part new before after previous (skipped ++ rest)
      ⟨skipped ++ replaced.text, replaced.count⟩ := by
  -- An occurrence at or behind the first character of these would start among them.
  induction skipped generalizing previous with
  | nil => simpa [lastOr] using tail
  | cons c skipped ih =>
    refine .keep ?_ (ih ?_ (lastOr_cons previous c skipped ▸ tail))
    · rintro ⟨-, behind, same, -⟩
      simpa using first [] behind (by simpa using same)
    · intro left right same
      simpa using first (c :: left) right (by simpa using same)

/-- A text in which the part does not occur is kept. -/
theorem Rewritten.keepAll (nowhere : ¬ part <:+: text) :
    Rewritten part new before after previous text ⟨text, 0⟩ := by
  -- The whole text comes before an occurrence, as there is none.
  have kept : Rewritten part new before after previous (text ++ []) ⟨text ++ [], 0⟩ :=
    .keepBefore (fun left right same => absurd ⟨left, right, by simpa using same.symm⟩ nowhere)
      .done
  simpa using kept

/-- Jumping from candidate to candidate is such a walk. -/
theorem rewritten_searchBounded (c : Char) (part new : Text) (before after : Neighbour)
    (previous : Option Char) (text : Text) :
    Rewritten (c :: part) new before after previous text
      (searchBounded c part new before after previous text) := by
  -- What is skipped before a candidate is kept, and so is the first character of a rejected one.
  fun_induction searchBounded c part new before after previous text with
  | case1 previous text found => exact .keepAll (cut?_eq_none_iff.mp found)
  | case2 previous text skipped behind found acceptable replaced ih =>
    obtain ⟨same, first⟩ := cut?_eq_some_iff.mp found
    obtain ⟨opened, closed⟩ := Bool.and_eq_true_iff.mp acceptable
    rw [List.append_assoc] at same
    subst same
    -- Behind the replaced candidate the walk goes on with its last character before it.
    rw [List.append_assoc]
    refine .keepBefore first (.swap opened closed ?_)
    rwa [lastOr_cons]
  | case3 previous text skipped behind found rejected replaced ih =>
    obtain ⟨same, first⟩ := cut?_eq_some_iff.mp found
    rw [List.append_assoc] at same
    subst same
    -- What is found behind this start of the candidate is what was looked at.
    have notHere : ¬ StartsBounded (c :: part) before after (lastOr previous skipped)
        (c :: (part ++ behind)) := by
      rintro ⟨opened, other, same, closed⟩
      obtain rfl : behind = other := by simpa using same
      exact rejected (by simp [opened, closed])
    exact .keepBefore first (.keep notHere ih)

/-- Replacing a part that is not empty is such a walk over the whole text. -/
theorem rewritten_replaceBounded (filled : part ≠ []) (new text : Text) (before after : Neighbour) :
    Rewritten part new before after none text (text.replaceBounded part new before after) := by
  cases part with
  | nil => exact absurd rfl filled
  | cons c part => exact rewritten_searchBounded c part new before after none text

end Text

end TokenGuard
