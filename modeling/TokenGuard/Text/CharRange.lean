import TokenGuard.Text.Basic

/-! Classes of characters are given as ascending lists of closed ranges of their numbers. -/

namespace TokenGuard

/-- A closed range of character numbers. -/
abbrev CharRange := Nat × Nat

namespace CharRange

/-- Whether a character lies in one of some ascending ranges. -/
def covers : List CharRange → Char → Bool
  | [], _ => false
  | range :: ranges, c =>
    -- No range lies lower than the first one that starts above the character.
    range.1 ≤ c.toNat && (c.toNat ≤ range.2 || covers ranges c)

end CharRange

end TokenGuard
