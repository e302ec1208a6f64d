/-! Finite binary64 numbers, rounded from exact ratios to the nearest one with ties to even. -/

namespace TokenGuard

/-- A binary64 number: its sign and the bits of its magnitude. -/
structure Binary64 where
  /-- Whether the sign bit is set, also for zero. -/
  negative : Bool
  /-- The exponent and fraction bits, which order magnitudes as numbers. -/
  magnitude : Nat
  deriving DecidableEq

namespace Binary64

/-- The number of magnitudes from one power of two to the next. -/
def binadeSize : Nat := Nat.pow 2 52

/-- The bits of an infinite magnitude; smaller ones are finite. -/
def infinity : Nat := 2047 * binadeSize

/-- The integer and the power of two whose product is a finite magnitude. -/
def decode (magnitude : Nat) : Nat × Int :=
  let exponent : Nat := magnitude / binadeSize
  let fraction : Nat := magnitude % binadeSize
  if exponent = 0 then (fraction, -1074) else (binadeSize + fraction, (exponent : Int) - 1075)

/-- A magnitude as a ratio of two integers. -/
def ratio (magnitude : Nat) : Nat × Nat :=
  let (integer, power) := decode magnitude
  (integer * Nat.pow 2 power.toNat, Nat.pow 2 (-power).toNat)

/-- The quotient rounded to the nearest integer, a half going to the even neighbour. -/
def roundHalfEven (numerator denominator : Nat) : Nat :=
  let quotient := numerator / denominator
  let remainder := numerator % denominator
  if 2 * remainder < denominator then quotient
  else if 2 * remainder > denominator then quotient + 1
  else quotient + quotient % 2

/-- The power of two that leaves a positive ratio 53 bits before the point, or the least power. -/
def power (numerator denominator : Nat) : Int :=
  let guess : Int := (Nat.log2 numerator : Int) - Nat.log2 denominator - 52
  let scaled := numerator * Nat.pow 2 (-guess).toNat
  let unit := denominator * Nat.pow 2 guess.toNat
  max (-1074) (if scaled < binadeSize * unit then guess - 1 else guess)

/-- The magnitude nearest to a ratio; one that is too large becomes infinite. -/
def nearest (numerator denominator : Nat) : Nat :=
  if numerator = 0 then 0
  else
    let q := power numerator denominator
    let scaled := numerator * Nat.pow 2 (-q).toNat
    let unit := denominator * Nat.pow 2 q.toNat
    min infinity ((q + 1074).toNat * binadeSize + roundHalfEven scaled unit)

/-- The magnitude nearest to a power of ten. -/
def powerOfTen (exponent : Nat) : Nat := nearest (Nat.pow 10 exponent) 1

/-- The rounded product of two magnitudes. -/
def multiply (left right : Nat) : Nat :=
  let (leftOver, leftUnder) := ratio left
  let (rightOver, rightUnder) := ratio right
  nearest (leftOver * rightOver) (leftUnder * rightUnder)

/-- The rounded quotient of two magnitudes, the second of them not zero. -/
def divide (left right : Nat) : Nat :=
  let (leftOver, leftUnder) := ratio left
  let (rightOver, rightUnder) := ratio right
  nearest (leftOver * rightUnder) (leftUnder * rightOver)

/-- The place of a number in the total order, in which minus zero comes before zero. -/
def orderKey (x : Binary64) : Int := if x.negative then -(x.magnitude : Int) - 1 else x.magnitude

/-- The total order of finite numbers. -/
def compareTotal (x y : Binary64) : Ordering := compare x.orderKey y.orderKey

end Binary64

end TokenGuard
