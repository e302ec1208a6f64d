import TokenGuard.Manifest
import TokenGuard.Regex.Syntax

/-! Residual tokens: what still follows a legacy naming convention or names a raw palette color. -/

namespace TokenGuard

/-- What tells residual tokens from others. None is refused for its size: the limit on the size of a
matcher, which only a very long lead or palette exceeds, is left out. -/
structure ResidualDetector where
  /-- What legacy class names start with. -/
  legacyLead : Text
  /-- The palette of raw color classes. -/
  palette : RawPalette
  deriving DecidableEq

/-- A character of a legacy name behind its lead. -/
def isLegacyTail (c : Char) : Bool := ('a' ≤ c && c ≤ 'z') || isDigit c || c = '-'

/-- The legacy token that a text starts with: the lead and as many tail characters as there are. -/
def legacyToken? (lead text : Text) : Option Text := do
  let rest ← Text.dropPrefix? lead text
  let tail := rest.takeWhile isLegacyTail
  if tail.isEmpty then none else return lead ++ tail

/-- The opacity that may end a raw color token: a slash and digits. -/
def opacity (text : Text) : Text :=
  match text with
  | '/' :: rest =>
    let digits := rest.takeWhile isDecimalDigit
    if digits.isEmpty then [] else '/' :: digits
  | _ => []

/-- The shade that a raw color token ends with: digits, and an opacity if there is one. -/
def shade? (text : Text) : Option Text :=
  let digits := text.takeWhile isDecimalDigit
  if digits.isEmpty then none else some (digits ++ opacity (text.dropWhile isDecimalDigit))

/-- One of several words, a hyphen and what `next?` finds behind it, the first word that fits. -/
def wordThen? (words : List Text) (next? : Text → Option Text) (text : Text) : Option Text :=
  words.findSome? fun word => do
    let rest ← Text.dropPrefix? (word ++ ['-']) text
    return word ++ ['-'] ++ (← next? rest)

/-- The raw color token that a text starts with. -/
def rawToken? (palette : RawPalette) (text : Text) : Option Text :=
  wordThen? palette.utilities (wordThen? palette.names shade?) text

/-- The tokens of a text from left to right, none inside another and each at a word boundary. -/
def scanTokens (token? : Text → Option Text) (previous : Option Char) (skip : Nat) :
    Text → List Text
  | [] => []
  | c :: rest =>
    match skip with
    | skip + 1 => scanTokens token? (some c) skip rest
    | 0 =>
      let found := if atBoundary isAsciiWord previous (some c) then token? (c :: rest) else none
      match found with
      | some token => token :: scanTokens token? (some c) (token.length - 1) rest
      | none => scanTokens token? (some c) 0 rest

namespace ResidualDetector

/-- The legacy tokens of a text. -/
def legacyTokens (detector : ResidualDetector) (text : Text) : List Text :=
  scanTokens (legacyToken? detector.legacyLead) none 0 text

/-- The raw color tokens of a text. -/
def rawTokens (detector : ResidualDetector) (text : Text) : List Text :=
  if detector.palette.isEmpty then [] else scanTokens (rawToken? detector.palette) none 0 text

/-- The different tokens of a text, legacy ones first, in order of first occurrence. -/
def detect (detector : ResidualDetector) (text : Text) : List Text :=
  (detector.legacyTokens text ++ detector.rawTokens text).eraseDups

end ResidualDetector

end TokenGuard
