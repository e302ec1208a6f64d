import TokenGuard.Regex.Class
import TokenGuard.Regex.Name
import TokenGuard.Regex.Program

/-! Reading patterns: groups, alternatives, repetitions and switches. -/

namespace TokenGuard.Regex

/-- A part of a sequence; a switch cannot be repeated. -/
inductive Item
  | part (regex : Nested Regex)
  | switch

namespace Item

/-- The expression of an item, if it has one. -/
def regex? : Item → Option Regex
  | part regex => some regex.value
  | switch => none

/-- The number of levels in an item. -/
def depth : Item → Nat
  | part regex => regex.depth
  | switch => 0

/-- The expression of the items of a sequence, given with the last one first. -/
def sequence (items : List Item) : Nested Regex :=
  ⟨sequenceAll (items.reverse.filterMap regex?), depthOfParts (items.map depth)⟩

end Item

/-- What has been read so far of a group. -/
structure GroupState where
  /-- The switches in force. -/
  flags : Flags
  /-- The names of groups in use. -/
  names : List Text
  /-- The finished alternatives, the last one first. -/
  alternatives : List (Nested Regex)
  /-- The items of the alternative being read, the last one first. -/
  items : List Item

namespace GroupState

/-- The expression of a group that has been read. -/
def finish (state : GroupState) : Nested Regex :=
  let alternatives := Item.sequence state.items :: state.alternatives
  let regex := choiceAll (alternatives.reverse.map Nested.value)
  ⟨regex, depthOfParts (alternatives.map Nested.depth)⟩

/-- A group that starts under the given switches. -/
def start (flags : Flags) (names : List Text) : GroupState := ⟨flags, names, [], []⟩

/-- Add an expression. -/
def add (state : GroupState) (regex : Nested Regex) : GroupState :=
  { state with items := .part regex :: state.items }

/-- Start another alternative. -/
def alternate (state : GroupState) : GroupState :=
  { state with alternatives := Item.sequence state.items :: state.alternatives, items := [] }

/-- Add the content of a group, whose names stay in use. -/
def addGroup (state inner : GroupState) : GroupState :=
  let content := inner.finish
  { state.add ⟨content.value, content.depth + 1⟩ with names := inner.names }

/-- Repeat the last item. -/
def repeatLast (state : GroupState) (greedy : Bool) (least : Nat) (most : Option Nat) :
    Except PatternError GroupState :=
  match state.items with
  | .part regex :: items =>
    let greedy := greedy != state.flags.swapGreed
    let enough := regex.value.enough
    let repeated := repeated greedy regex.value (enough least) (most.map enough)
    .ok { state with items := .part ⟨repeated, regex.depth + 1⟩ :: items }
  | _ => malformed

end GroupState

/-- The expression of a sign of a pattern. -/
def ofPrimitive (flags : Flags) : Primitive → Regex
  | .literal c => one (foldSet flags (· = c))
  | .set set => one set
  | .look assertion => look assertion

/-- The expression of a dot. -/
def dot (flags : Flags) : Except PatternError Regex :=
  if !flags.unicode then malformed
  else if flags.dotAll then .ok (one fun _ => true)
  else if flags.carriageReturn then .ok (one fun c => c ≠ '\n' && c ≠ '\r')
  else .ok (one (· ≠ '\n'))

/-- The condition of a caret. -/
def caret (flags : Flags) : Assertion :=
  if !flags.multiLine then .textStart
  else if flags.carriageReturn then .anyLineStart
  else .lineStart

/-- The condition of a dollar sign. -/
def dollar (flags : Flags) : Assertion :=
  if !flags.multiLine then .textEnd
  else if flags.carriageReturn then .anyLineEnd
  else .lineEnd

/-- Read a sign that stands for itself, a set or a condition. -/
def readSign (flags : Flags) (c : Char) (rest : Text) :
    Except PatternError (Nested Regex × Text) := do
  if c = '\\' then
    let (sign, rest) ← readEscape flags rest
    return (⟨ofPrimitive flags sign, 0⟩, rest)
  else if c = '.' then return (⟨← dot flags, 0⟩, rest)
  else if c = '^' then return (⟨look (caret flags), 0⟩, rest)
  else if c = '$' then return (⟨look (dollar flags), 0⟩, rest)
  else if c = '[' then
    let (set, rest) ← readClass flags rest
    return (⟨one set.value, set.depth⟩, rest)
  else return (⟨ofPrimitive flags (.literal c), 0⟩, rest)

/-- A question mark behind a repetition makes it as short as possible. -/
def readGreed : Text → Bool × Text
  | '?' :: rest => (false, rest)
  | rest => (true, rest)

/-- A limit of a repetition, which has at most 32 bits and may stand between blanks. -/
def readLimit (text : Text) : Except PatternError Nat :=
  let digits := Text.trim text
  let limit := digitsValue digits
  if digits.isEmpty || !digits.all isDigit || Nat.pow 2 32 ≤ limit then malformed else .ok limit

/-- Read the limits of a repetition behind the opening brace, with the brace that closes them. -/
def readLimits (flags : Flags) (text : Text) : Except PatternError (Nat × Option Nat × Text) := do
  let (content, rest) ← readBraces flags false text
  match Text.splitAt ',' content with
  | [exact] =>
    let count ← readLimit exact
    return (count, some count, rest)
  | [least, []] => return (← readLimit least, none, rest)
  | [least, most] =>
    let least ← readLimit least
    let most ← readLimit most
    if most < least then malformed else return (least, some most, rest)
  | _ => malformed

/-- Set or clear the switch of a letter. -/
def setFlag (flags : Flags) (value : Bool) (letter : Char) : Except PatternError Flags :=
  if letter = 'i' then .ok { flags with ignoreCase := value }
  else if letter = 'm' then .ok { flags with multiLine := value }
  else if letter = 's' then .ok { flags with dotAll := value }
  else if letter = 'U' then .ok { flags with swapGreed := value }
  else if letter = 'u' then .ok { flags with unicode := value }
  else if letter = 'R' then .ok { flags with carriageReturn := value }
  else if letter = 'x' then .ok { flags with spaced := value }
  else malformed

/-- Read switches up to a colon or parenthesis; none is given twice, and a hyphen precedes one. -/
def readFlags (flags : Flags) (value : Bool) (seen : Text) :
    Text → Except PatternError (Flags × Text × Text)
  | [] => malformed
  | c :: rest =>
    if c = ':' || c = ')' then
      if seen.head? = some '-' then malformed else .ok (flags, seen, c :: rest)
    else if seen.contains c then malformed
    else if c = '-' then readFlags flags false (c :: seen) rest
    else do readFlags (← setFlag flags value c) value (c :: seen) rest

/-- How a parenthesis opens. -/
inductive Opening
  /-- A group under switches of its own, with the names in use. -/
  | group (flags : Flags) (names : List Text)
  /-- Switches for what follows. -/
  | switches (flags : Flags)

/-- Read what stands between an opening parenthesis and the content of its group. -/
def readOpening (state : GroupState) (text : Text) : Except PatternError (Opening × Text) :=
  match skipIgnored state.flags text with
  | '?' :: rest =>
    match rest with
    | '=' :: _ | '!' :: _ => malformed
    | '<' :: '=' :: _ | '<' :: '!' :: _ => malformed
    | 'P' :: '<' :: rest | '<' :: rest => do
      let (name, rest) ← readName state.names rest
      return (.group state.flags (name :: state.names), rest)
    | rest => do
      let (flags, seen, rest) ← readFlags state.flags true [] rest
      match rest with
      | ':' :: rest => return (.group flags state.names, rest)
      | rest => if seen.isEmpty then malformed else return (.switches flags, rest.drop 1)
  | rest => .ok (.group state.flags state.names, rest)

/-- Read a group up to its end, at most `fuel` signs of it. -/
def readGroup : Nat → GroupState → Text → Except PatternError (GroupState × Text)
  | 0, _, _ => malformed
  | fuel + 1, state, text =>
    match skipIgnored state.flags text with
    | [] => .ok (state, [])
    | c :: rest =>
      if c = ')' then .ok (state, c :: rest)
      else if c = '|' then readGroup fuel state.alternate rest
      else if c = '(' then do
        match ← readOpening state rest with
        | (.switches flags, rest) =>
          readGroup fuel { state with flags := flags, items := .switch :: state.items } rest
        | (.group flags names, rest) =>
          let (inner, rest) ← readGroup fuel (.start flags names) rest
          match rest with
          | ')' :: rest => readGroup fuel (state.addGroup inner) rest
          | _ => malformed
      else if c = '?' then do
        let (greedy, rest) := readGreed rest
        readGroup fuel (← state.repeatLast greedy 0 (some 1)) rest
      else if c = '*' then do
        let (greedy, rest) := readGreed rest
        readGroup fuel (← state.repeatLast greedy 0 none) rest
      else if c = '+' then do
        let (greedy, rest) := readGreed rest
        readGroup fuel (← state.repeatLast greedy 1 none) rest
      else if c = '\x7b' then do
        let (least, most, rest) ← readLimits state.flags rest
        let (greedy, rest) := readGreed (skipIgnored state.flags rest)
        readGroup fuel (← state.repeatLast greedy least most) rest
      else do
        let (regex, rest) ← readSign state.flags c rest
        readGroup fuel (state.add regex) rest

/-- Read a whole pattern. -/
def ofPattern (pattern : Text) : Except PatternError Regex := do
  let (state, rest) ← readGroup (pattern.length + 1) (.start {} []) pattern
  let regex := state.finish
  if !rest.isEmpty || depthLimit < regex.depth then malformed
  else if stepLimit < regex.value.steps then .error .tooLarge
  else return regex.value

/-- Compile a pattern. -/
def compilePattern (pattern : Text) : Except PatternError Program := do
  return (← ofPattern pattern).compile

end TokenGuard.Regex
