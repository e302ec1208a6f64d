import TokenGuard.Proofs.Regex.Search
import TokenGuard.Proofs.Text.Patch

/-! Replacing the matches of a program: nothing is replaced exactly in a text without a match, and a
program that takes something with each match leaves a patched text. -/

namespace TokenGuard.Regex.Program

open Text (lastOr lastOr_append)

variable {program : Program} {new text left piece right : Text} {previous : Option Char}
  {behindMatch : Bool}

/-- A text in which nothing is found is kept. -/
theorem replaceFrom_of_none (absent : program.find? previous text = none) :
    program.replaceFrom new previous behindMatch text = ⟨text, 0⟩ := by
  rw [replaceFrom.eq_def, absent]

/-- A match is replaced, and the search goes on behind it, unless it is empty and stands at the
start. -/
theorem replaceFrom_of_found (taken : left ++ piece ≠ [])
    (isFound : program.find? previous (left ++ (piece ++ right)) =
      some ⟨left.length, piece.length⟩) :
    program.replaceFrom new previous behindMatch (left ++ (piece ++ right)) =
      let replaced := program.replaceFrom new (lastOr previous (left ++ piece)) true right
      ⟨left ++ new ++ replaced.text, replaced.count + 1⟩ := by
  -- The search goes on behind the last character up to the end of the match.
  obtain ⟨read, last, isRead⟩ := (List.eq_nil_or_concat (left ++ piece)).resolve_left taken
  have size : left.length + piece.length = read.length + 1 := by
    rw [← List.length_append, isRead, List.length_concat]
  have behind : (left ++ (piece ++ right)).drop read.length = last :: right := by
    rw [← List.append_assoc, isRead, List.concat_append, List.drop_left]
  have edge : lastOr previous (left ++ piece) = some last := by simp [isRead, lastOr]
  rw [replaceFrom.eq_def, isFound]
  simp only [size, edge]
  split
  · next nothing => cases nothing.symm.trans behind
  · next d rest more =>
    obtain ⟨rfl, rfl⟩ := List.cons.inj (more.symm.trans behind)
    rw [List.take_left]

/-- An empty match at the start is replaced, and it is passed over afterwards. -/
theorem replaceFrom_of_empty (isFound : program.find? previous text = some ⟨0, 0⟩) :
    program.replaceFrom new previous false text =
      let replaced := program.replaceFrom new previous true text
      ⟨new ++ replaced.text, replaced.count + 1⟩ := by
  rw [replaceFrom.eq_def, isFound]

/-- Nothing is found exactly in a text in which no match occurs. -/
theorem find?_eq_none_iff_not_occurs :
    program.find? previous text = none ↔ ¬ Target.Occurs program.Matches previous text none := by
  rw [find?_eq_none_iff]
  simp only [Target.Occurs, Option.or_none, not_exists, not_and]

/-- A program replaces nothing exactly in a text in which no match occurs. -/
theorem count_replaceAll_eq_zero_iff :
    (program.replaceAll new text).count = 0 ↔
      ¬ Target.Occurs program.Matches none text none := by
  rw [← find?_eq_none_iff_not_occurs, replaceAll]
  refine ⟨fun none => ?_, fun absent => by rw [replaceFrom_of_none absent]⟩
  -- Every match that is found at first is replaced.
  refine Option.eq_none_iff_forall_ne_some.mpr fun ⟨start, length⟩ isFound => ?_
  obtain ⟨left, piece, right, rfl, rfl, rfl, -⟩ := foundIn_of_find? isFound
  by_cases taken : left ++ piece = []
  · obtain ⟨rfl, rfl⟩ := List.append_eq_nil_iff.mp taken
    rw [replaceFrom_of_empty isFound] at none
    exact Nat.succ_ne_zero _ none
  · rw [replaceFrom_of_found taken isFound] at none
    exact Nat.succ_ne_zero _ none

end TokenGuard.Regex.Program
