import TokenGuard.Json.Quoted

/-! A JSON text as far as it can be read, with each fault kept at the place where it was met. -/

namespace TokenGuard.Json

/-- How the items of an array end. -/
inductive ArrayStop
  /-- With a closing bracket. -/
  | closed
  /-- The text ends behind an item. -/
  | unclosed
  /-- Neither a comma nor a bracket follows an item. -/
  | junk
  /-- A bracket follows a comma. -/
  | trailingComma
  /-- The text ends behind a comma. -/
  | afterComma
  deriving DecidableEq

/-- The fault met when another item is asked for. -/
def ArrayStop.whenRead : ArrayStop → Option Fault
  | closed => none
  | unclosed => some .endInList
  | junk => some .noListEnd
  | trailingComma => some .trailingComma
  | afterComma => some .endInValue

/-- The fault met when the array is passed over. -/
def ArrayStop.whenSkipped : ArrayStop → Option Fault
  | trailingComma => some .noValue
  | stop => stop.whenRead

/-- The fault met when no further item is acceptable. -/
def ArrayStop.whenFull : ArrayStop → Option Fault
  | closed => none
  | unclosed => some .endInList
  | trailingComma => some .trailingComma
  | junk | afterComma => some .trailingCharacters

/-- How the members of an object end. -/
inductive ObjectStop
  /-- With a closing brace. -/
  | closed
  /-- The text ends behind a member. -/
  | unclosed
  /-- Neither a comma nor a brace follows a member. -/
  | junk
  /-- A brace follows a comma. -/
  | trailingComma
  /-- The text ends behind a comma. -/
  | afterComma
  /-- Something that is not a string stands in place of a key. -/
  | noKey
  /-- A key that cannot be read. -/
  | brokenKey (cause : Break)
  deriving DecidableEq

/-- The fault met when another member is asked for. -/
def ObjectStop.whenRead : ObjectStop → Option Fault
  | closed => none
  | unclosed => some .endInObject
  | junk => some .noObjectEnd
  | trailingComma => some .trailingComma
  | afterComma => some .endInValue
  | noKey => some .noKey
  | brokenKey cause => some cause.read

/-- The fault met when the object is passed over. -/
def ObjectStop.whenSkipped : ObjectStop → Option Fault
  | trailingComma => some .noKey
  | afterComma => some .endInObject
  | brokenKey cause => some cause.skip
  | stop => stop.whenRead

/-- A value as far as it can be read. What follows a broken part is not looked at. -/
inductive Node
  | null
  | boolean (value : Bool)
  /-- A well-formed number, which may still be out of range. -/
  | number (value : Except Fault Number)
  /-- A closed string, whose escapes may still be unacceptable. -/
  | string (value : Except Fault Text)
  /-- Items, and how they end unless the last one is broken. -/
  | array (items : List Node) (stop : ArrayStop)
  /-- Keys and values, and how they end unless the last value is broken. -/
  | object (members : List (Except Fault Text × Node)) (stop : ObjectStop)
  /-- A place where no value can be read. -/
  | broken (cause : Break)

/-- A value with the text behind it, or without if reading stopped in the value. -/
abbrev Reading := Node × Option Text

/-- A blank of JSON. -/
def isSpace (c : Char) : Bool := c = ' ' || c = '\n' || c = '\r' || c = '\t'

/-- A text without its leading blanks. -/
def skipSpace (text : Text) : Text := text.dropWhile isSpace

/-- Read the letters that complete a word. -/
def readWord (node : Node) : Text → Text → Reading
  | [], rest => (node, some rest)
  | _ :: _, [] => (.broken ⟨.endInValue, .endInValue, .noValue⟩, none)
  | letter :: word, c :: rest =>
    if letter = c then readWord node word rest else (.broken ⟨.noWord, .noWord, .noValue⟩, none)

/-- Read a number behind its sign. -/
def readNumberNode (negative : Bool) (text : Text) : Reading :=
  match readNumber negative text with
  | .ok (parts, rest) => (.number parts.value, some rest)
  | .error cause => (.broken cause, none)

/-- What is reported for a string that cannot be passed over. -/
def brokenString (text : Text) (skip : Fault) : Break :=
  let read := match readString none text with
    | .ok _ => skip
    | .error fault => fault
  ⟨read, skip, read⟩

/-- The text of a string that can be passed over. -/
def stringValue (text : Text) : Except Fault Text := (readString none text).map (·.1)

/-- Read a string behind its opening quote. -/
def readStringNode (text : Text) : Reading :=
  match skipString text with
  | .ok rest => (.string (stringValue text), some rest)
  | .error skip => (.broken (brokenString text skip), none)

/-- Read items, of which at least one follows, with a reader for values. -/
def readItems (readValue : Text → Reading) : Nat → Text → List Node × ArrayStop × Option Text
  | 0, _ => ([], .unclosed, none)
  | fuel + 1, text =>
    match readValue text with
    | (node, none) => ([node], .unclosed, none)
    | (node, some rest) =>
      match skipSpace rest with
      | [] => ([node], .unclosed, none)
      | c :: rest =>
        if c = ']' then ([node], .closed, some rest)
        else if c = ',' then
          match skipSpace rest with
          | [] => ([node], .afterComma, none)
          | ']' :: _ => ([node], .trailingComma, none)
          | rest =>
            let (items, stop, rest) := readItems readValue fuel rest
            (node :: items, stop, rest)
        else ([node], .junk, none)

/-- Read the colon and the value that follow a key. -/
def readMemberValue (readValue : Text → Reading) (text : Text) : Reading :=
  match skipSpace text with
  | [] => (.broken ⟨.endInObject, .endInObject, .endInObject⟩, none)
  | c :: rest =>
    if c = ':' then readValue rest else (.broken ⟨.noColon, .noColon, .noColon⟩, none)

/-- Read members, of which at least one follows, with a reader for values. -/
def readMembers (readValue : Text → Reading) :
    Nat → Text → List (Except Fault Text × Node) × ObjectStop × Option Text
  | 0, _ => ([], .unclosed, none)
  | _ + 1, [] => ([], .unclosed, none)
  | fuel + 1, quote :: text =>
    if quote ≠ '"' then ([], .noKey, none)
    else match skipString text with
      | .error skip => ([], .brokenKey (brokenString text skip), none)
      | .ok rest =>
        let key := stringValue text
        match readMemberValue readValue rest with
        | (node, none) => ([(key, node)], .unclosed, none)
        | (node, some rest) =>
          match skipSpace rest with
          | [] => ([(key, node)], .unclosed, none)
          | c :: rest =>
            if c = '\x7d' then ([(key, node)], .closed, some rest)
            else if c = ',' then
              match skipSpace rest with
              | [] => ([(key, node)], .afterComma, none)
              | '\x7d' :: _ => ([(key, node)], .trailingComma, none)
              | rest =>
                let (members, stop, rest) := readMembers readValue fuel rest
                ((key, node) :: members, stop, rest)
            else ([(key, node)], .junk, none)

/-- Read an array of at most `fuel` items behind its opening bracket. -/
def readArray (readValue : Text → Reading) (fuel : Nat) (text : Text) : Reading :=
  match skipSpace text with
  | [] => (.array [] .unclosed, none)
  | ']' :: rest => (.array [] .closed, some rest)
  | text =>
    let (items, stop, rest) := readItems readValue fuel text
    (.array items stop, rest)

/-- Read an object of at most `fuel` members behind its opening brace. -/
def readObject (readValue : Text → Reading) (fuel : Nat) (text : Text) : Reading :=
  match skipSpace text with
  | [] => (.object [] .unclosed, none)
  | '\x7d' :: rest => (.object [] .closed, some rest)
  | text =>
    let (members, stop, rest) := readMembers readValue fuel text
    (.object members stop, rest)

/-- Read a value, at most `depth` arrays and objects deep and each of at most as many parts. -/
def readValue : Nat → Text → Reading
  | 0, _ => (.broken ⟨.endInValue, .endInValue, .endInValue⟩, none)
  | depth + 1, text =>
    match skipSpace text with
    | [] => (.broken ⟨.endInValue, .endInValue, .endInValue⟩, none)
    | c :: rest =>
      if c = 'n' then readWord .null "ull" rest
      else if c = 't' then readWord (.boolean true) "rue" rest
      else if c = 'f' then readWord (.boolean false) "alse" rest
      else if c = '-' then readNumberNode true rest
      else if isDigit c then readNumberNode false (c :: rest)
      else if c = '"' then readStringNode rest
      else if c = '[' then readArray (readValue depth) depth rest
      else if c = '\x7b' then readObject (readValue depth) depth rest
      else (.broken ⟨.noValue, .noValue, .noValue⟩, none)

/-- A whole text: its value, and whether something else follows it. -/
structure Document where
  /-- The value as far as it can be read. -/
  root : Node
  /-- Whether anything but blanks follows. -/
  trailing : Bool

/-- Read a whole text, which has neither more levels nor more parts than characters. -/
def Document.ofText (text : Text) : Document :=
  match readValue (text.length + 1) text with
  | (root, some rest) => ⟨root, !(skipSpace rest).isEmpty⟩
  | (root, none) => ⟨root, false⟩

/-- Decode a whole text, the value before whatever follows it. -/
def Document.decode {α : Type} (document : Document) (decode : Node → Except Error α) :
    Except Error α := do
  let value ← decode document.root
  if document.trailing then throw (.syntactic .trailingCharacters)
  return value

end TokenGuard.Json
