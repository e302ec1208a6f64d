import TokenGuard.Hash.Sha256

/-! The generated block of a region, and the hash that its comment records. -/

namespace TokenGuard

/-- The comment that opens every generated block. -/
def banner : Text := "/* AUTO-GENERATED FROM TOKEN MANIFEST - DO NOT EDIT */"

/-- What the lines of a block and the end marker behind them are indented by. -/
def indent : Text := "  "

/-- What opens a hash comment. -/
def hashOpening : Text := "/* HASH: "

/-- What closes a hash comment. -/
def hashClosing : Text := " */"

/-- An indented line. -/
def blockLine (content : Text) : Text := indent ++ content ++ ['\n']

/-- The banner, the hash, one line for each token, and the indent of the end marker. -/
def formatBlock (hash : Text) (tokens : List Text) : Text :=
  ['\n'] ++ blockLine banner ++ blockLine (hashOpening ++ hash ++ hashClosing) ++
    tokens.flatMap blockLine ++ indent

/-- A digit of a recorded hash. -/
def isHashDigit (c : Char) : Bool := ('0' ≤ c && c ≤ '9') || ('a' ≤ c && c ≤ 'f')

/-- The hash of a well-formed hash comment that a text starts with. -/
def hashComment? (text : Text) : Option Text := do
  let text ← Text.dropPrefix? (hashOpening ++ fingerprintLabel) text
  let digits := text.takeWhile isHashDigit
  if digits.isEmpty then none
  else do
    let _ ← Text.dropPrefix? hashClosing (text.dropWhile isHashDigit)
    return fingerprintLabel ++ digits

/-- The hash of the first well-formed hash comment of a body. -/
def extractHash : Text → Option Text
  | [] => none
  | c :: rest => (hashComment? (c :: rest)).or (extractHash rest)

end TokenGuard
