import TokenGuard.Text.Basic

/-! Replacing occurrences of a part, all of them or those between acceptable neighbours. -/

namespace TokenGuard

/-- A condition on the character beside an occurrence, `none` standing for an end of the text. -/
abbrev Neighbour := Option Char → Bool

/-- A text after replacing, with the number of replacements. -/
structure Replaced where
  /-- The text with every counted occurrence replaced. -/
  text : Text
  /-- The number of replaced occurrences. -/
  count : Nat
  deriving DecidableEq

namespace Text

/-- The character before what follows a text, which itself follows `before`. -/
def lastOr (before : Option Char) (text : Text) : Option Char := text.getLast?.or before

/-- Jump from candidate to candidate, resuming one character behind a rejected one. -/
def searchBounded (c : Char) (part new : Text) (before after : Neighbour)
    (previous : Option Char) (text : Text) : Replaced :=
  match _found : cut? (c :: part) text with
  | none => ⟨text, 0⟩
  | some (skipped, behind) =>
    if before (lastOr previous skipped) && after behind.head? then
      let replaced := searchBounded c part new before after (lastOr (some c) part) behind
      ⟨skipped ++ new ++ replaced.text, replaced.count + 1⟩
    else
      let replaced := searchBounded c part new before after (some c) (part ++ behind)
      ⟨skipped ++ c :: replaced.text, replaced.count⟩
termination_by text.length
decreasing_by
  -- Either way at least the first character of the candidate is left behind.
  all_goals
    have := eq_of_cut? ‹_›
    simp [this]
    try omega

/-- Replace the occurrences of a part whose two neighbours are acceptable. -/
def replaceBounded (text part new : Text) (before after : Neighbour) : Replaced :=
  match part with
  | [] => ⟨text, 0⟩
  | c :: part => searchBounded c part new before after none text

/-- One walk over a text that replaces wherever it can, `skip` characters being already replaced. -/
def replaceFrom (part new : Text) : Nat → Text → Replaced
  | _, [] => ⟨[], 0⟩
  | skip + 1, _ :: rest => replaceFrom part new skip rest
  | 0, c :: rest =>
    if part.isPrefixOf (c :: rest) then
      let replaced := replaceFrom part new (part.length - 1) rest
      ⟨new ++ replaced.text, replaced.count + 1⟩
    else
      let replaced := replaceFrom part new 0 rest
      ⟨c :: replaced.text, replaced.count⟩

/-- Replace every occurrence from left to right; the empty part occurs around every character. -/
def replaceAll (text part new : Text) : Replaced :=
  if part.isEmpty then ⟨new ++ text.flatMap fun c => c :: new, text.length + 1⟩
  else replaceFrom part new 0 text

end Text

end TokenGuard
