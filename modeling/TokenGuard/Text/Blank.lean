import TokenGuard.Text.CharRange

/-! Blank characters are those of the Unicode property White_Space. -/

namespace TokenGuard

/-- The blocks of the property White_Space. -/
def blankRanges : List CharRange :=
  [(0x9, 0xD), (0x20, 0x20), (0x85, 0x85), (0xA0, 0xA0), (0x1680, 0x1680), (0x2000, 0x200A),
    (0x2028, 0x2029), (0x202F, 0x202F), (0x205F, 0x205F), (0x3000, 0x3000)]

/-- A blank separates words and is trimmed from the ends of a line. -/
def isBlank (c : Char) : Bool := CharRange.covers blankRanges c

namespace Text

/-- A text without the blanks at its two ends. -/
def trim (text : Text) : Text :=
  ((text.dropWhile isBlank).reverse.dropWhile isBlank).reverse

/-- The maximal runs of characters that are not blank, in order. -/
def words (text : Text) : List Text := go [] text
where
  -- The run being read is kept reversed until a blank or the end closes it.
  go (run : Text) : Text → List Text
    | [] => close run
    | c :: rest => if isBlank c then close run ++ go [] rest else go (c :: run) rest
  close (run : Text) : List Text := if run.isEmpty then [] else [run.reverse]

end Text

end TokenGuard
