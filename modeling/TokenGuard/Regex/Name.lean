import TokenGuard.Regex.Pattern

/-! Names of groups: letters, numbers and a few signs. -/

namespace TokenGuard.Regex

/-- The letters that a later version of the standard adds to those that classes know. -/
def addedLetters : Runs := .ofText
  "88F 1 3CC 1 7F 1 9AF1 2 2 1 1 1 1C 1 614E 1A 56B 3 32 2 C64 8 248 2C 50C4 19 2 19 11E 5 1801
   8 509 16 61 73 58CD 1F 1 16 8 2 D03A 6 1762 C 5502 10CA"

/-- The digits that a later version of the standard adds to those that classes know. -/
def addedNumbers : Runs := .ofText "11DE0 A"

/-- A letter of any script. -/
def isNameLetter (c : Char) : Bool := Unicode.alphabetic c || addedLetters.toSet c

/-- A number of any script. -/
def isNameNumber (c : Char) : Bool := Unicode.inCategories Unicode.numbers c || addedNumbers.toSet c

/-- Whether a character may stand in the name of a group; only letters and underscores
come first. -/
def isNameChar (first : Bool) (c : Char) : Bool :=
  c = '_' || isNameLetter c || (!first && (c = '.' || c = '[' || c = ']' || isNameNumber c))

/-- Read the name of a group up to its closing angle bracket. -/
def readName (names : List Text) (text : Text) : Except PatternError (Text × Text) :=
  let name := text.takeWhile (· ≠ '>')
  match name, text.dropWhile (· ≠ '>') with
  | c :: others, '>' :: rest =>
    if isNameChar true c && others.all (isNameChar false) && !names.contains name then
      .ok (name, rest)
    else malformed
  | _, _ => malformed

end TokenGuard.Regex
