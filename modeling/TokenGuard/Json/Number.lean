import TokenGuard.Decimal.Numeral
import TokenGuard.Json.Error

/-! JSON numbers: their grammar, and the value that a well-formed one stands for. -/

namespace TokenGuard.Json

/-- The faults of an unreadable value, which depend on what the reader wants from it. -/
structure Break where
  /-- What is reported when the value is read. -/
  read : Fault
  /-- What is reported when the value is passed over. -/
  skip : Fault
  /-- What is reported when a name is expected. -/
  name : Fault
  deriving DecidableEq

/-- The parts of a well-formed number. -/
structure NumberParts where
  /-- Whether a minus sign was written. -/
  negative : Bool
  /-- The digits before the point. -/
  whole : Text
  /-- The digits behind the point. -/
  fraction : Text
  /-- Whether there is a point or an exponent. -/
  fractional : Bool
  /-- The sign and digits of the exponent. -/
  exponent : Option (Bool × Text)

/-- A number that ends too early or goes on wrongly. -/
def brokenNumber (rest : Text) : Break :=
  ⟨if rest.isEmpty then .endInValue else .badNumber, .badNumber, .noValue⟩

/-- The exponent of a number, if one starts here. -/
def readExponent : Text → Except Break (Option (Bool × Text) × Text)
  | [] => .ok (none, [])
  | mark :: rest =>
    if mark = 'e' || mark = 'E' then
      let (negative, rest) := Numeral.takeSign rest
      match takeDigits rest with
      | ([], rest) => .error (brokenNumber rest)
      | (digits, rest) => .ok (some (negative, digits), rest)
    else .ok (none, mark :: rest)

/-- The digits behind the point, if a point stands here. -/
def readFraction : Text → Except Break (Option Text × Text)
  | '.' :: rest =>
    match takeDigits rest with
    | ([], rest) => .error (brokenNumber rest)
    | (digits, rest) => .ok (some digits, rest)
  | rest => .ok (none, rest)

/-- The digits before the point, which have no leading zero. -/
def readWhole (text : Text) : Except Break (Text × Text) :=
  match takeDigits text with
  | ([], rest) => .error (brokenNumber rest)
  | ('0' :: _ :: _, _) => .error ⟨.badNumber, .badNumber, .noValue⟩
  | (digits, rest) => .ok (digits, rest)

/-- The parts of the number that a text starts with behind its sign. -/
def readNumber (negative : Bool) (text : Text) : Except Break (NumberParts × Text) := do
  let (whole, rest) ← readWhole text
  let (fraction, rest) ← readFraction rest
  let (exponent, rest) ← readExponent rest
  return (⟨negative, whole, fraction.getD [], fraction.isSome || exponent.isSome, exponent⟩, rest)

/-- The greatest integer that is kept exactly. -/
def integerLimit : Nat := Nat.pow 2 64 - 1

/-- The greatest exponent that is kept exactly. -/
def exponentLimit : Nat := Nat.pow 2 31 - 1

/-- Extend an integer by digits as long as it stays within the limit, and give the digits left. -/
def fillDigits (significand : Nat) : Text → Nat × Text
  | [] => (significand, [])
  | c :: rest =>
    let extended := significand * 10 + digitValue c
    if integerLimit < extended then (significand, c :: rest) else fillDigits extended rest

/-- Scale a magnitude by a power of ten, in steps that are powers of ten themselves. -/
def scaleByTen (magnitude : Nat) (exponent : Int) : Option Nat :=
  if magnitude = 0 then some 0
  else if 308 < exponent then none
  else if 0 ≤ exponent then
    let product := Binary64.multiply magnitude (Binary64.powerOfTen exponent.toNat)
    if product < Binary64.infinity then some product else none
  else if -308 ≤ exponent then
    some (Binary64.divide magnitude (Binary64.powerOfTen (-exponent).toNat))
  else
    let lowered := Binary64.divide magnitude (Binary64.powerOfTen 308)
    -- A second step of this size leaves nothing of any significand.
    if exponent < -616 then some 0
    else some (Binary64.divide lowered (Binary64.powerOfTen (-exponent - 308).toNat))

/-- The power of ten written behind a number, clipped to its limits, or `none` if it is
beyond them. -/
def NumberParts.writtenExponent (parts : NumberParts) : Option Int :=
  match parts.exponent with
  | none => some 0
  | some (negative, digits) =>
    let exponent := digitsValue digits
    if exponentLimit < exponent then none
    else some (if negative then -(exponent : Int) else exponent)

/-- The binary64 number of the significant digits scaled by the written exponent. -/
def NumberParts.float (parts : NumberParts) : Except Fault Binary64 :=
  let (whole, dropped) := fillDigits 0 parts.whole
  let (significand, ignored) := fillDigits whole parts.fraction
  match parts.writtenExponent with
  | none =>
    -- An exponent beyond its limit leaves zero or no number at all.
    let growing := parts.exponent.any fun (negative, _) => !negative
    if significand ≠ 0 && growing then .error .numberRange else .ok ⟨parts.negative, 0⟩
  | some written =>
    let places : Int := dropped.length - (parts.fraction.length - ignored.length : Nat)
    match scaleByTen (Binary64.nearest significand 1) (places + written) with
    | some magnitude => .ok ⟨parts.negative, magnitude⟩
    | none => .error .numberRange

/-- The value of a number: an integer if it is written as one and fits into 64 bits. -/
def NumberParts.value (parts : NumberParts) : Except Fault Number :=
  let integer := digitsValue parts.whole
  if parts.fractional then parts.float.map .float
  else if parts.negative then
    if 0 < integer && integer ≤ Nat.pow 2 63 then .ok (.integer (-(integer : Int)))
    else parts.float.map .float
  else if integer ≤ integerLimit then .ok (.integer integer)
  else parts.float.map .float

end TokenGuard.Json
