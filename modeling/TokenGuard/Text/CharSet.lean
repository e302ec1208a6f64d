import TokenGuard.Decimal.Numeral
import TokenGuard.Text.Blank

/-! Sets of characters are conditions on them; large ones are written down as lengths of runs. -/

namespace TokenGuard

/-- A set of characters. -/
abbrev CharSet := Char → Bool

namespace CharSet

/-- The characters of two sets. -/
def union (left right : CharSet) : CharSet := fun c => left c || right c

/-- The characters of one set that are not in another. -/
def without (set other : CharSet) : CharSet := fun c => set c && !other c

/-- The characters that are not in a set. -/
def complement (set : CharSet) : CharSet := fun c => !set c

end CharSet

/-- The number that hexadecimal digits spell, any other character counting as a zero. -/
def hexValue (digits : Text) : Nat := digits.foldl (fun n c => 16 * n + (hexDigit? c).getD 0) 0

/-- Lengths of runs of characters in ascending order, outside and inside a set in turn. -/
abbrev Runs := List Nat

namespace Runs

/-- Whether a number, counted from the start of the runs, lies in the set. -/
def covers (inside : Bool) : Runs → Nat → Bool
  | [], _ => false
  | length :: runs, n => if n < length then inside else covers (!inside) runs (n - length)

/-- The set of runs that start with characters outside it. -/
def toSet (runs : Runs) : CharSet := fun c => runs.covers false c.toNat

/-- Lengths that are written in hexadecimal digits with blanks between them. -/
def ofText (text : String) : Runs := (Text.words text.toList).map hexValue

end Runs

end TokenGuard
