import TokenGuard.Decimal.Numeral

/-! The order in which keys are printed: finite numbers by value, then all other keys byte-wise. -/

namespace TokenGuard

/-- The finite number that a key spells. -/
def numericKey? (key : Text) : Option Binary64 := (Numeral.ofText? key).bind Numeral.toBinary64?

/-- Numeric keys come first and by value; bytes decide between spellings and between names. -/
def compareKeys (left right : Text) : Ordering :=
  match numericKey? left, numericKey? right with
  | some x, some y => (x.compareTotal y).then (Text.compareBytes left right)
  | some _, none => .lt
  | none, some _ => .gt
  | none, none => Text.compareBytes left right

/-- Entries sorted by their keys, those of equal keys in their old order. -/
def sortByKey {α : Type} (order : Text → Text → Ordering) (entries : List (Text × α)) :
    List (Text × α) :=
  entries.mergeSort fun left right => (order left.1 right.1).isLE

/-- Keys in printing order. -/
def sortKeys (keys : List Text) : List Text :=
  keys.mergeSort fun left right => (compareKeys left right).isLE

end TokenGuard
