import TokenGuard.Decimal.Numeral
import TokenGuard.Text.Printable

/-! Semantic versions: three numbers, an optional pre-release identifier, and build metadata. -/

namespace TokenGuard

/-- A semantic version. -/
structure Version where
  major : Nat
  minor : Nat
  patch : Nat
  /-- The pre-release identifier, empty if there is none. -/
  pre : Text
  /-- The build metadata, empty if there is none. -/
  build : Text
  deriving DecidableEq

namespace Version

/-- A part of a version. -/
inductive Part
  | major
  | minor
  | patch
  | pre
  | build
  deriving DecidableEq

/-- What a part is called. -/
def Part.label : Part → Text
  | major => "major version number"
  | minor => "minor version number"
  | patch => "patch version number"
  | pre => "pre-release identifier"
  | build => "build metadata"

/-- Why a text is no version. -/
inductive Fault
  /-- There is no text at all. -/
  | blank
  /-- The text ends inside a part. -/
  | endIn (part : Part)
  /-- A character that cannot start a part. -/
  | charIn (part : Part) (c : Char)
  /-- A character that cannot follow a part. -/
  | charAfter (part : Part) (c : Char)
  /-- A number of several digits that starts with a zero. -/
  | leadingZero (part : Part)
  /-- A number beyond 64 bits. -/
  | tooLarge (part : Part)
  /-- Nothing between two dots. -/
  | emptySegment (part : Part)
  deriving DecidableEq

/-- The wording of a fault. -/
def Fault.message : Fault → Text
  | blank => "empty string, expected a semver version"
  | endIn part => "unexpected end of input while parsing " ++ part.label
  | charIn part c =>
    "unexpected character " ++ Text.quotedBy '\x27' [c] ++ " while parsing " ++ part.label
  | charAfter part c =>
    "unexpected character " ++ Text.quotedBy '\x27' [c] ++ " after " ++ part.label
  | leadingZero part => "invalid leading zero in " ++ part.label
  | tooLarge part => "value of " ++ part.label ++ " exceeds u64::MAX"
  | emptySegment part => "empty identifier segment in " ++ part.label

/-- The greatest number of a version. -/
def numberLimit : Nat := Nat.pow 2 64 - 1

/-- Accumulate leading digits; a digit behind a zero or beyond the limit is a fault. -/
def readDigits (part : Part) (started : Bool) (total : Nat) : Text → Except Fault (Nat × Text)
  | [] => if started then .ok (total, []) else .error (.endIn part)
  | c :: rest =>
    if isDigit c then
      if started && total = 0 then .error (.leadingZero part)
      else if numberLimit < total * 10 + digitValue c then .error (.tooLarge part)
      else readDigits part true (total * 10 + digitValue c) rest
    else if started then .ok (total, c :: rest)
    else .error (.charIn part c)

/-- The dot that must follow a number. -/
def readDot (part : Part) : Text → Except Fault Text
  | [] => .error (.endIn part)
  | c :: rest => if c = '.' then .ok rest else .error (.charAfter part c)

/-- A character of an identifier other than the dot between its segments. -/
def isIdentifierChar (c : Char) : Bool := c.isAlphanum || c = '-'

/-- Whether a segment is a number of several digits that starts with a zero. -/
def hasLeadingZero (segment : Text) : Bool :=
  segment.all isDigit && 1 < segment.length && segment.head? = some '0'

/-- Read dotted segments; `first` holds before any of them. -/
def readSegments (part : Part) (first : Bool) (text : Text) : Except Fault (Text × Text) :=
  let segment := text.takeWhile isIdentifierChar
  let behind := text.dropWhile isIdentifierChar
  if segment.isEmpty then
    if first && behind.head? ≠ some '.' then .ok ([], behind) else .error (.emptySegment part)
  else if part = .pre && hasLeadingZero segment then .error (.leadingZero part)
  else match _behind : behind with
    | '.' :: rest => do
      let (others, rest) ← readSegments part false rest
      return (segment ++ ['.'] ++ others, rest)
    | rest => .ok (segment, rest)
termination_by text.length
decreasing_by
  -- What is left behind a dot is shorter than the text.
  have := (List.dropWhile_sublist isIdentifierChar (l := text)).length_le
  have := congrArg List.length _behind
  simp [behind] at *
  omega

/-- The identifier behind its mark, if the mark stands here; it must not be empty. -/
def readIdentifier (part : Part) (mark : Char) : Text → Except Fault (Text × Text)
  | [] => .ok ([], [])
  | c :: rest =>
    if c = mark then do
      let (identifier, rest) ← readSegments part true rest
      if identifier.isEmpty then throw (.emptySegment part)
      return (identifier, rest)
    else .ok ([], c :: rest)

/-- Read a whole text as a version. -/
def ofText (text : Text) : Except Fault Version := do
  if text.isEmpty then throw .blank
  let (major, text) ← readDigits .major false 0 text
  let text ← readDot .major text
  let (minor, text) ← readDigits .minor false 0 text
  let text ← readDot .minor text
  let (patch, text) ← readDigits .patch false 0 text
  let (pre, text) ← readIdentifier .pre '-' text
  let (build, text) ← readIdentifier .build '+' text
  -- A character left over is reported behind the last part that was read.
  let last : Part := if !build.isEmpty then .build else if !pre.isEmpty then .pre else .patch
  match text with
  | [] => return ⟨major, minor, patch, pre, build⟩
  | c :: _ => throw (.charAfter last c)

/-- The text of a version. -/
def toText (version : Version) : Text :=
  Text.ofNat version.major ++ ['.'] ++ Text.ofNat version.minor ++ ['.'] ++
    Text.ofNat version.patch ++
    (if version.pre.isEmpty then [] else '-' :: version.pre) ++
    (if version.build.isEmpty then [] else '+' :: version.build)

end Version

end TokenGuard
