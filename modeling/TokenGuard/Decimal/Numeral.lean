import TokenGuard.Decimal.Binary64
import TokenGuard.Text.Basic

/-! Decimal numerals with an optional sign, point and exponent, read as the nearest
binary64 number. -/

namespace TokenGuard

/-- An ASCII digit. -/
def isDigit (c : Char) : Bool := '0' ≤ c && c ≤ '9'

/-- The value of an ASCII digit. -/
def digitValue (c : Char) : Nat := c.toNat - '0'.toNat

/-- The number that a run of ASCII digits spells. -/
def digitsValue (digits : Text) : Nat := digits.foldl (fun n c => 10 * n + digitValue c) 0

/-- The value of a hexadecimal digit in either case. -/
def hexDigit? (c : Char) : Option Nat :=
  if isDigit c then some (digitValue c)
  else if 'a' ≤ c && c ≤ 'f' then some (c.toNat - 'a'.toNat + 10)
  else if 'A' ≤ c && c ≤ 'F' then some (c.toNat - 'A'.toNat + 10)
  else none

/-- The leading ASCII digits of a text and what follows them. -/
def takeDigits (text : Text) : Text × Text := text.span isDigit

/-- A decimal numeral: the sign, and the coefficient with the power of ten it is scaled by. -/
structure Numeral where
  /-- Whether a minus sign was written. -/
  negative : Bool
  /-- The digits of the numeral as one integer. -/
  coefficient : Nat
  /-- The power of ten. -/
  exponent : Int
  deriving DecidableEq

namespace Numeral

/-- An optional sign, `true` for minus, and what follows it. -/
def takeSign : Text → Bool × Text
  | '-' :: rest => (true, rest)
  | '+' :: rest => (false, rest)
  | rest => (false, rest)

/-- The exponent that ends a numeral, zero if the text is empty. -/
def exponent? : Text → Option Int
  | [] => some 0
  | mark :: rest =>
    if mark = 'e' || mark = 'E' then
      let (negative, rest) := takeSign rest
      match takeDigits rest with
      | ([], _) => none
      | (digits, []) => some (if negative then -(digitsValue digits : Int) else digitsValue digits)
      | _ => none
    else none

/-- Read a whole text: a sign, digits with at most one point anywhere, and an exponent. -/
def ofText? (text : Text) : Option Numeral :=
  let (negative, text) := takeSign text
  let (whole, text) := takeDigits text
  let (fraction, text) := match text with
    | '.' :: text => takeDigits text
    | text => ([], text)
  if whole.isEmpty && fraction.isEmpty then none
  else (exponent? text).map fun exponent =>
    ⟨negative, digitsValue (whole ++ fraction), exponent - fraction.length⟩

/-- The magnitude nearest to the numeral's value. -/
def magnitude (numeral : Numeral) : Nat :=
  if numeral.coefficient = 0 then 0
  else
    -- Ten bits make up at least three decimal places, and three bits at most one.
    let bits := Nat.log2 numeral.coefficient
    if 3 * (bits / 10) + numeral.exponent > 310 then Binary64.infinity
    else if bits / 3 + 1 + numeral.exponent < -330 then 0
    else Binary64.nearest (numeral.coefficient * Nat.pow 10 numeral.exponent.toNat)
      (Nat.pow 10 (-numeral.exponent).toNat)

/-- The number that the numeral stands for, if it is finite. -/
def toBinary64? (numeral : Numeral) : Option Binary64 :=
  if numeral.magnitude < Binary64.infinity then some ⟨numeral.negative, numeral.magnitude⟩
  else none

end Numeral

end TokenGuard
