import TokenGuard.Regex.Syntax
import TokenGuard.Text.Blank

/-! Forbidden patterns: what a line must not contain between two word boundaries. -/

namespace TokenGuard

/-- A pattern that no line may contain. -/
structure ForbiddenPattern where
  /-- The pattern as it was written. -/
  raw : Text
  /-- A pattern is not empty. -/
  nonempty : raw ≠ []
  deriving DecidableEq

/-- A part of a pattern. -/
inductive PatternPart
  /-- One character. -/
  | character (c : Char)
  /-- Any characters that are not blank, even none. -/
  | run
  deriving DecidableEq

/-- For every place of a text, from its start to its end, whether a word starts or ends there. -/
def wordBoundaries (previous : Option Char) : Text → List Bool
  | [] => [atBoundary isAsciiWord previous none]
  | c :: rest => atBoundary isAsciiWord previous (some c) :: wordBoundaries (some c) rest

/-- The places at which a character is followed by a marked place. -/
def markBefore (c : Char) : Text → List Bool → List Bool
  | d :: rest, _ :: marks => (c == d && marks.headD false) :: markBefore c rest marks
  | _, _ => [false]

/-- The places from which characters that are not blank lead to a marked place. -/
def markReaching : Text → List Bool → List Bool
  | c :: rest, here :: marks =>
    let reaching := markReaching rest marks
    (here || (!isBlank c && reaching.headD false)) :: reaching
  | _, marks => marks

/-- The places at which parts start that end at a marked place. -/
def markStarts (line : Text) (marks : List Bool) : List PatternPart → List Bool
  | [] => marks
  | .character c :: parts => markBefore c line (markStarts line marks parts)
  | .run :: parts => markReaching line (markStarts line marks parts)

namespace ForbiddenPattern

/-- A pattern that is not empty. No pattern is refused for its size: the limit on the size of a
matcher, which only a pattern of very many characters exceeds, is left out. -/
def ofText? (raw : Text) : Option ForbiddenPattern :=
  if nonempty : raw ≠ [] then some ⟨raw, nonempty⟩ else none

/-- A text as it is compared: a pattern with a run tells capital letters from small ones. -/
def reading (pattern : ForbiddenPattern) (text : Text) : Text :=
  if pattern.raw.contains '*' then text else text.map foldCase

/-- The parts of a pattern, in which an asterisk stands for a run. -/
def parts (pattern : ForbiddenPattern) : List PatternPart :=
  (pattern.reading pattern.raw).map fun c => if c = '*' then .run else .character c

/-- Whether the pattern occurs in a line with a word boundary at both of its ends. -/
def isMatch (pattern : ForbiddenPattern) (line : Text) : Bool :=
  let boundaries := wordBoundaries none line
  let starts := markStarts (pattern.reading line) boundaries pattern.parts
  (boundaries.zip starts).any fun place => place.1 && place.2

end ForbiddenPattern

end TokenGuard
