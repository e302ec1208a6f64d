import TokenGuard.Hash.Sha256
import TokenGuard.Json.Printer

/-! The canonical text of a value: index keys ascending before all others, and no blanks. -/

namespace TokenGuard.Json

/-- The number of index keys; the last number of 32 bits is not among them. -/
def indexLimit : Nat := Nat.pow 2 32 - 1

/-- The number that a key spells as an array index: digits without a leading zero. -/
def indexKey? (key : Text) : Option Nat :=
  if key.isEmpty || !key.all isDigit then none
  else if key.head? = some '0' && key ≠ ['0'] then none
  else if digitsValue key < indexLimit then some (digitsValue key)
  else none

/-- The place of a key among the index keys. -/
def indexOf (key : Text) : Nat := (indexKey? key).getD indexLimit

/-- Members in canonical order: index keys by number, then all others as they stand. -/
def orderMembers {α : Type} (members : List (Text × α)) : List (Text × α) :=
  let indexed := members.filter fun member => (indexKey? member.1).isSome
  let named := members.filter fun member => (indexKey? member.1).isNone
  indexed.mergeSort (fun left right => indexOf left.1 ≤ indexOf right.1) ++ named

namespace Value

/-- A value with the members of all its objects in canonical order. -/
def canonical : Value → Value
  | array items => array (canonicalItems items)
  | object members => object (orderMembers (canonicalMembers members))
  | value => value
where
  canonicalItems : List Value → List Value
    | [] => []
    | item :: items => item.canonical :: canonicalItems items
  canonicalMembers : List (Text × Value) → List (Text × Value)
    | [] => []
    | (key, value) :: members => (key, value.canonical) :: canonicalMembers members

/-- The canonical text of a value. -/
def canonicalText (value : Value) : Text := value.canonical.compact

/-- The fingerprint of a value is that of its canonical text. -/
def fingerprint (value : Value) : Text := TokenGuard.fingerprint (Text.utf8 value.canonicalText)

end Value

end TokenGuard.Json
