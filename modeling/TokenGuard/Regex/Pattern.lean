import TokenGuard.Regex.Syntax
import TokenGuard.Unicode.Lookup

/-! The notation of patterns: what the characters of a pattern stand for outside and
inside classes. -/

namespace TokenGuard.Regex

/-- Switches that change the meaning of what follows. -/
structure Flags where
  /-- Case does not matter. -/
  ignoreCase : Bool := false
  /-- The anchors hold at the ends of every line. -/
  multiLine : Bool := false
  /-- The dot takes line ends too. -/
  dotAll : Bool := false
  /-- Repetitions are as short as possible, and as long with a question mark. -/
  swapGreed : Bool := false
  /-- Classes hold characters of every script. -/
  unicode : Bool := true
  /-- Carriage returns may end lines. -/
  carriageReturn : Bool := false
  /-- Blanks and comments in the pattern mean nothing. -/
  spaced : Bool := false

/-- Why a pattern is rejected. -/
inductive PatternError
  /-- It cannot be read. -/
  | malformed
  /-- It has more steps than a program may have. -/
  | tooLarge
  deriving DecidableEq

/-- The wording of an error. -/
def PatternError.message : PatternError → Text
  | malformed => "regex parse error: malformed pattern"
  | tooLarge => "Compiled regex exceeds size limit of 10485760 bytes."

/-- Reject a pattern that cannot be read. -/
def malformed {α : Type} : Except PatternError α := .error .malformed

/-- Pass over blanks and comments; `inComment` holds up to the end of a line. -/
def skipSpaced (inComment : Bool) : Text → Text
  | [] => []
  | c :: rest =>
    if inComment then skipSpaced (c ≠ '\n') rest
    else if c = '#' then skipSpaced true rest
    else if isBlank c then skipSpaced false rest
    else c :: rest

/-- Pass over what means nothing under the flags. -/
def skipIgnored (flags : Flags) (text : Text) : Text :=
  if flags.spaced then skipSpaced false text else text

/-- Read up to a closing brace, leaving out what means nothing under the flags. -/
def readBraces (flags : Flags) (inComment : Bool) : Text → Except PatternError (Text × Text)
  | [] => malformed
  | c :: rest =>
    if inComment then readBraces flags (c ≠ '\n') rest
    else if c = '\x7d' then .ok ([], rest)
    else if flags.spaced && c = '#' then readBraces flags true rest
    else if flags.spaced && isBlank c then readBraces flags false rest
    else do
      let (content, rest) ← readBraces flags false rest
      return (c :: content, rest)

/-- An ASCII letter. -/
def isAsciiLetter (c : Char) : Bool := ('a' ≤ c && c ≤ 'z') || ('A' ≤ c && c ≤ 'Z')

/-- The characters of a range. -/
def rangeSet (first last : Char) : CharSet := fun c => first ≤ c && c ≤ last

/-- The digits under the flags. -/
def digitSet (flags : Flags) : CharSet := if flags.unicode then isDecimalDigit else isDigit

/-- The blanks of ASCII. -/
def isAsciiBlank (c : Char) : Bool := c = ' ' || ('\t' ≤ c && c ≤ '\r')

/-- The blanks under the flags. -/
def blankSet (flags : Flags) : CharSet := if flags.unicode then isBlank else isAsciiBlank

/-- The word characters under the flags. -/
def wordSet (flags : Flags) : CharSet := if flags.unicode then isWordCharacter else isAsciiWord

/-- A set whose members may be written in either case if the flags say so. -/
def foldSet (flags : Flags) (set : CharSet) : CharSet :=
  if !flags.ignoreCase then set
  else if flags.unicode then set.foldCase
  else fun c => set c || set c.toLower || set c.toUpper

/-- The named classes of ASCII characters. -/
def asciiClasses : List (Text × CharSet) :=
  [("alnum", Char.isAlphanum),
    ("alpha", isAsciiLetter),
    ("ascii", fun c => c.toNat < 0x80),
    ("blank", fun c => c = ' ' || c = '\t'),
    ("cntrl", fun c => c.toNat < 0x20 || c.toNat = 0x7F),
    ("digit", isDigit),
    ("graph", rangeSet '!' '~'),
    ("lower", rangeSet 'a' 'z'),
    ("print", rangeSet ' ' '~'),
    ("punct", fun c => rangeSet '!' '~' c && !c.isAlphanum),
    ("space", isAsciiBlank),
    ("upper", rangeSet 'A' 'Z'),
    ("word", isAsciiWord),
    ("xdigit", fun c => isDigit c || rangeSet 'a' 'f' c || rangeSet 'A' 'F' c)]

/-- What a single sign of a pattern stands for. -/
inductive Primitive
  /-- One character. -/
  | literal (c : Char)
  /-- A class of characters. -/
  | set (set : CharSet)
  /-- A condition on a position. -/
  | look (assertion : Assertion)

/-- Characters that have a meaning of their own. -/
def metaCharacters : Text := "\\.+*?()|[]\x7b\x7d^$#&-~"

/-- Whether a backslash before a character leaves it as it is. -/
def isEscapable (c : Char) : Bool :=
  metaCharacters.contains c ||
    (c.toNat < 0x80 && !c.isAlphanum && c ≠ '<' && c ≠ '>')

/-- The character of a number, if it has one. -/
def charOfNumber? (n : Nat) : Option Char := if n.isValidChar then some (Char.ofNat n) else none

/-- Read a fixed number of hexadecimal digits. -/
def readHexDigits (flags : Flags) (total : Nat) : Nat → Text → Except PatternError (Nat × Text)
  | 0, text => .ok (total, text)
  | _ + 1, [] => malformed
  | count + 1, c :: rest =>
    match hexDigit? c with
    | some digit =>
      let rest := if count = 0 then rest else skipIgnored flags rest
      readHexDigits flags (16 * total + digit) count rest
    | none => malformed

/-- The number of hexadecimal digits, of which there is at least one. -/
def hexNumber (digits : Text) : Except PatternError Nat :=
  if digits.isEmpty || digits.any fun c => (hexDigit? c).isNone then malformed
  else .ok (hexValue digits)

/-- Two digits give a byte if classes do not hold every script, and then only bytes of ASCII. -/
def isLoneByte (flags : Flags) (width n : Nat) : Bool := !flags.unicode && width = 2 && 0x7F < n

/-- The character that a number stands for. -/
def numberedChar (n : Nat) (rest : Text) : Except PatternError (Primitive × Text) :=
  match charOfNumber? n with
  | some c => .ok (.literal c, rest)
  | none => malformed

/-- Read a character given by its number behind `x`, `u` or `U`. -/
def readHexEscape (flags : Flags) (width : Nat) (text : Text) :
    Except PatternError (Primitive × Text) := do
  match skipIgnored flags text with
  | '\x7b' :: rest =>
    let (digits, rest) ← readBraces flags false rest
    numberedChar (← hexNumber digits) rest
  | text =>
    let (n, rest) ← readHexDigits flags 0 width text
    if isLoneByte flags width n then malformed else numberedChar n rest

/-- The assertions that a name between braces may follow. -/
def namedBoundaries (inWord : CharSet) : List (Text × Assertion) :=
  [("start", .wordStart inWord), ("end", .wordEnd inWord),
    ("start-half", .noWordBefore inWord), ("end-half", .noWordAfter inWord)]

/-- A character of the name of a boundary. -/
def isBoundaryName (c : Char) : Bool := isAsciiLetter c || c = '-'

/-- Read a word boundary, which a name between braces may specialise. -/
def readBoundary (flags : Flags) (text : Text) : Except PatternError (Primitive × Text) := do
  let inWord := wordSet flags
  let plain : Except PatternError (Primitive × Text) := .ok (.look (.boundary inWord), text)
  match text with
  | '\x7b' :: rest =>
    match skipIgnored flags rest with
    | [] => malformed
    | c :: _ =>
      -- Braces that start otherwise hold the limits of a repetition.
      if !isBoundaryName c then plain
      else
        let (name, rest) ← readBraces flags false rest
        match (namedBoundaries inWord).lookup name with
        | some assertion => return (.look assertion, rest)
        | none => malformed
  | _ => plain

/-- Characters that an escaped letter stands for. -/
def letterEscapes : List (Char × Char) :=
  [('a', '\x07'), ('f', '\x0c'), ('t', '\t'), ('n', '\n'), ('r', '\r'), ('v', '\x0b')]

/-- A complement, which needs every script to be meaningful. -/
def complementSet (flags : Flags) (set : CharSet) : Except PatternError CharSet :=
  if flags.unicode then .ok set.complement else malformed

/-- A set whose case is settled first, and which is then given by what it lacks if it is negated. -/
def settleSet (flags : Flags) (negated : Bool) (set : CharSet) : Except PatternError CharSet :=
  if negated then complementSet flags (foldSet flags set) else .ok (foldSet flags set)

/-- A class that is given by what it lacks. -/
def complementOf (flags : Flags) (set : CharSet) (rest : Text) :
    Except PatternError (Primitive × Text) := do
  return (.set (← complementSet flags set), rest)

/-- The characters of a property, or of a value that a sign parts from it. -/
def propertySet? (query : Text) : Option CharSet :=
  match Text.cut? "!=" query <|> Text.cut? ":" query <|> Text.cut? "=" query with
  | some (property, value) => Unicode.valueSet? property value
  | none => Unicode.set? query

/-- Whether the sign in a property says that the value is another one. -/
def isUnequal (query : Text) : Bool := (Text.cut? "!=" query).isSome

/-- Read the name of a property, which braces surround unless it is a single letter. -/
def readPropertyName (flags : Flags) (text : Text) : Except PatternError (Text × Text) :=
  match skipIgnored flags text with
  | [] => malformed
  | c :: rest =>
    if c = '\x7b' then readBraces flags false rest
    else if c = '\\' then malformed
    else .ok ([c], rest)

/-- Read a property of characters, or what it lacks. -/
def readProperty (flags : Flags) (negated : Bool) (text : Text) :
    Except PatternError (Primitive × Text) := do
  let (name, rest) ← readPropertyName flags text
  match flags.unicode, propertySet? name with
  | true, some set => return (.set (← settleSet flags (negated != isUnequal name) set), rest)
  | _, _ => malformed

/-- Read what follows a backslash. -/
def readEscape (flags : Flags) : Text → Except PatternError (Primitive × Text)
  | [] => malformed
  | c :: rest =>
    if c = 'x' then readHexEscape flags 2 rest
    else if c = 'u' then readHexEscape flags 4 rest
    else if c = 'U' then readHexEscape flags 8 rest
    else if c = 'd' then .ok (.set (digitSet flags), rest)
    else if c = 's' then .ok (.set (blankSet flags), rest)
    else if c = 'w' then .ok (.set (wordSet flags), rest)
    else if c = 'D' then complementOf flags (digitSet flags) rest
    else if c = 'S' then complementOf flags (blankSet flags) rest
    else if c = 'W' then complementOf flags (wordSet flags) rest
    else if c = 'p' then readProperty flags false rest
    else if c = 'P' then readProperty flags true rest
    else if isEscapable c then .ok (.literal c, rest)
    else if c = 'A' then .ok (.look .textStart, rest)
    else if c = 'z' then .ok (.look .textEnd, rest)
    else if c = 'b' then readBoundary flags rest
    else if c = 'B' then .ok (.look (.noBoundary (wordSet flags)), rest)
    else if c = '<' then .ok (.look (.wordStart (wordSet flags)), rest)
    else if c = '>' then .ok (.look (.wordEnd (wordSet flags)), rest)
    else match letterEscapes.lookup c with
      | some special => .ok (.literal special, rest)
      | none => malformed

end TokenGuard.Regex
