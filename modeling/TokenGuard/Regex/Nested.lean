import TokenGuard.Text.Basic

/-! Nesting: parts of a pattern lie inside each other only up to a number of levels. -/

namespace TokenGuard.Regex

/-- Something read from a part of a pattern, with the number of levels in that part. -/
structure Nested (α : Type) where
  value : α
  depth : Nat

/-- The greatest number of levels of a pattern. -/
def depthLimit : Nat := 250

/-- Parts beside each other are one level above the deepest of them; a single part has no level. -/
def depthOfParts : List Nat → Nat
  | [] => 0
  | [only] => only
  | depths => depths.foldl max 0 + 1

end TokenGuard.Regex
