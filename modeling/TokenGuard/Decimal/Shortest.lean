import TokenGuard.Decimal.Binary64
import TokenGuard.Text.Basic

/-! The shortest decimal text that reads back as the same binary64 number. -/

namespace TokenGuard

namespace Binary64

/-- Digits and the power of ten of their unit. -/
structure Digits where
  /-- The digits as one integer. -/
  coefficient : Nat
  /-- The power of ten that the last digit counts. -/
  exponent : Int

/-- A decimal as a ratio of two integers. -/
def Digits.ratio (digits : Digits) : Nat × Nat :=
  (digits.coefficient * Nat.pow 10 digits.exponent.toNat, Nat.pow 10 (-digits.exponent).toNat)

/-- The number of decimal digits of an integer. -/
def decimalLength (n : Nat) : Nat := (Nat.toDigits 10 n).length

/-- The power of ten at or below a positive ratio. -/
def decimalPower (numerator denominator : Nat) : Int :=
  if denominator ≤ numerator then decimalLength (numerator / denominator) - 1
  else
    let places := decimalLength (denominator / numerator)
    let reached := denominator ≤ numerator * Nat.pow 10 (places - 1)
    if reached then -((places : Int) - 1) else -(places : Int)

/-- The neighbour on the grid of a given unit that reads back, the nearer one if both do. -/
def onGrid? (magnitude : Nat) (exponent : Int) : Option Digits :=
  let (numerator, denominator) := Binary64.ratio magnitude
  let scaled := numerator * Nat.pow 10 (-exponent).toNat
  let unit := denominator * Nat.pow 10 exponent.toNat
  let below : Digits := ⟨scaled / unit, exponent⟩
  let above : Digits := ⟨scaled / unit + 1, exponent⟩
  let readsBack (digits : Digits) := nearest digits.ratio.1 digits.ratio.2 == magnitude
  match readsBack below, readsBack above with
  | true, true => some ⟨roundHalfEven scaled unit, exponent⟩
  | true, false => some below
  | false, true => some above
  | false, false => none

/-- The digits of the coarsest grid with a hit; seventeen digits always suffice. -/
def shortestDigits (magnitude : Nat) : Digits :=
  let (numerator, denominator) := Binary64.ratio magnitude
  let top := decimalPower numerator denominator
  match (List.range 17).findSome? fun digits : Nat => onGrid? magnitude (top - digits) with
  | some digits => digits
  | none => ⟨0, 0⟩

/-- Where positional notation gives way to an exponent. -/
structure Form where
  /-- The least power of ten of a first digit that is written positionally. -/
  least : Int
  /-- The greatest power of ten of a first digit that is written positionally. -/
  greatest : Int

/-- An exponent with its sign. -/
def exponentText (exponent : Int) : Text :=
  [if exponent < 0 then '-' else '+'] ++ Text.ofNat exponent.natAbs

/-- The text of a positive magnitude, always with a point or an exponent. -/
def magnitudeText (form : Form) (magnitude : Nat) : Text :=
  let shortest := shortestDigits magnitude
  let written := Text.ofNat shortest.coefficient
  -- The power of ten of the first digit decides between the three shapes.
  let top : Int := shortest.exponent + written.length - 1
  -- A neighbour that carried into a new digit ends in a zero.
  let digits := (written.reverse.dropWhile (· == '0')).reverse
  if top < form.least || form.greatest < top then
    let fraction := digits.drop 1
    digits.take 1 ++ (if fraction.isEmpty then [] else ['.'] ++ fraction) ++
      ['e'] ++ exponentText top
  else if top < 0 then "0." ++ List.replicate (-top - 1).toNat '0' ++ digits
  else
    let whole := top.toNat + 1
    let padded := digits ++ List.replicate (whole - digits.length) '0'
    let fraction := padded.drop whole
    padded.take whole ++ ['.'] ++ (if fraction.isEmpty then ['0'] else fraction)

/-- The text of a finite number. -/
def toText (form : Form) (x : Binary64) : Text :=
  (if x.negative then ['-'] else []) ++
    (if x.magnitude = 0 then ['0', '.', '0'] else magnitudeText form x.magnitude)

end Binary64

end TokenGuard
