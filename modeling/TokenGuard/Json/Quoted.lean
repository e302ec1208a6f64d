import TokenGuard.Json.Number

/-! JSON strings: writing a text between quotes, reading it back, and passing over one unread. -/

namespace TokenGuard.Json

/-- The two hexadecimal digits of a control character. -/
def controlEscape (c : Char) : Text :=
  "\\u00" ++ [Nat.digitChar (c.toNat / 16), Nat.digitChar (c.toNat % 16)]

/-- A character as it is written inside a string. -/
def escapeChar (c : Char) : Text :=
  if c = '"' then ['\\', '"']
  else if c = '\\' then ['\\', '\\']
  else if c = '\n' then ['\\', 'n']
  else if c = '\r' then ['\\', 'r']
  else if c = '\t' then ['\\', 't']
  else if c = '\x08' then ['\\', 'b']
  else if c = '\x0c' then ['\\', 'f']
  else if c.toNat < 0x20 then controlEscape c
  else [c]

/-- A text as a JSON string. -/
def encodeString (text : Text) : Text := ['"'] ++ text.flatMap escapeChar ++ ['"']

/-- The number that four hexadecimal digits spell. -/
def hexNumber? (digits : List Char) : Option Nat :=
  digits.foldl (fun total c => do return 16 * (← total) + (← hexDigit? c)) (some 0)

/-- The fault of a hexadecimal escape that is not followed by four digits. -/
def hexFault (text : Text) : Fault :=
  if Text.byteSize text < 4 then .endInString else .badEscape

/-- The character that a simple escape stands for. -/
def simpleEscape? (c : Char) : Option Char :=
  if c = '"' || c = '\\' || c = '/' then some c
  else if c = 'b' then some '\x08'
  else if c = 'f' then some '\x0c'
  else if c = 'n' then some '\n'
  else if c = 'r' then some '\r'
  else if c = 't' then some '\t'
  else none

/-- A number of the leading surrogates, which announce a second escape. -/
def isLeadingSurrogate (n : Nat) : Bool := 0xD800 ≤ n && n ≤ 0xDBFF

/-- A number of the trailing surrogates, which complete a leading one. -/
def isTrailingSurrogate (n : Nat) : Bool := 0xDC00 ≤ n && n ≤ 0xDFFF

/-- The character that two surrogates encode. -/
def surrogatePair (leading trailing : Nat) : Char :=
  Char.ofNat ((leading - 0xD800) * 0x400 + (trailing - 0xDC00) + 0x10000)

/-- What one escaped number adds to a string, given the leading surrogate that waits for it. -/
def joinSurrogate (waiting : Option Nat) (n : Nat) : Except Fault (Text × Option Nat) :=
  match waiting with
  | some leading =>
    if isTrailingSurrogate n then .ok ([surrogatePair leading n], none) else .error .loneSurrogate
  | none =>
    if isTrailingSurrogate n then .error .loneSurrogate
    else if isLeadingSurrogate n then .ok ([], some n)
    else .ok ([Char.ofNat n], none)

/-- Read a string behind its opening quote, giving the text and what follows the closing quote. -/
def readString (waiting : Option Nat) : Text → Except Fault (Text × Text)
  | [] => .error .endInString
  | c :: rest =>
    if c = '\\' then
      match rest with
      | [] => .error .endInString
      | e :: rest =>
        if e = 'u' then
          match rest with
          | p :: q :: r :: s :: rest =>
            match hexNumber? [p, q, r, s] with
            | some n => do
              let (joined, waiting) ← joinSurrogate waiting n
              let (text, rest) ← readString waiting rest
              return (joined ++ text, rest)
            | none => .error (hexFault [p, q, r, s])
          | short => .error (hexFault short)
        else if waiting.isSome then .error .noTrailingEscape
        else match simpleEscape? e with
          | some plain => do
            let (text, rest) ← readString none rest
            return (plain :: text, rest)
          | none => .error .badEscape
    else if waiting.isSome then .error .noTrailingEscape
    else if c = '"' then .ok ([], rest)
    else if c.toNat < 0x20 then .error .controlCharacter
    else do
      let (text, rest) ← readString none rest
      return (c :: text, rest)

/-- Pass over a string behind its opening quote, without regard to surrogates. -/
def skipString : Text → Except Fault Text
  | [] => .error .endInString
  | c :: rest =>
    if c = '\\' then
      match rest with
      | [] => .error .endInString
      | e :: rest =>
        if e = 'u' then
          match rest with
          | p :: q :: r :: s :: rest =>
            if (hexNumber? [p, q, r, s]).isSome then skipString rest
            else .error (hexFault [p, q, r, s])
          | short => .error (hexFault short)
        else if (simpleEscape? e).isSome then skipString rest
        else .error .badEscape
    else if c = '"' then .ok rest
    else if c.toNat < 0x20 then .error .controlCharacter
    else skipString rest

end TokenGuard.Json
