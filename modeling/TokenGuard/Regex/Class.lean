import TokenGuard.Regex.Nested
import TokenGuard.Regex.Pattern

/-! Bracketed classes: members, ranges, named classes, nested classes and operations
between them. -/

namespace TokenGuard.Regex

/-- An operation between the two sides of a class. -/
inductive SetOperation
  | intersection
  | difference
  | symmetricDifference

/-- The characters that an operation leaves. -/
def SetOperation.apply (left right : CharSet) : SetOperation → CharSet
  | intersection => fun c => left c && right c
  | difference => fun c => left c && !right c
  | symmetricDifference => fun c => left c != right c

/-- The members of a class that have been read, and the levels in each of them. -/
structure Members where
  set : CharSet
  depths : List Nat

namespace Members

/-- No members. -/
def none : Members := ⟨fun _ => false, []⟩

/-- Add a member. -/
def add (members : Members) (member : Nested CharSet) : Members :=
  ⟨members.set.union member.value, member.depth :: members.depths⟩

/-- Members as one set. -/
def close (members : Members) : Nested CharSet := ⟨members.set, depthOfParts members.depths⟩

end Members

/-- An operation of a class that waits for its right side. -/
structure Waiting where
  operation : SetOperation
  left : Nested CharSet

/-- Apply the operation that waits for its right side, if there is one. -/
def closeOperation (flags : Flags) (waiting : Option Waiting) (right : Nested CharSet) :
    Nested CharSet :=
  match waiting with
  | some ⟨operation, left⟩ =>
    ⟨operation.apply (foldSet flags left.value) (foldSet flags right.value),
      depthOfParts [left.depth, right.depth]⟩
  | none => right

/-- The operation that a doubled sign stands for. -/
def operation? (text : Text) : Option (SetOperation × Text) :=
  match text with
  | '&' :: '&' :: rest => some (.intersection, rest)
  | '-' :: '-' :: rest => some (.difference, rest)
  | '~' :: '~' :: rest => some (.symmetricDifference, rest)
  | _ => none

/-- The named class behind an opening bracket, if there is one, and whether it is negated. -/
def namedClass? (text : Text) : Option (Bool × CharSet × Text) :=
  match text with
  | ':' :: text =>
    let negated := text.head? = some '^'
    let text := if negated then text.drop 1 else text
    match asciiClasses.lookup (text.takeWhile (· ≠ ':')), text.dropWhile (· ≠ ':') with
    | some set, ':' :: ']' :: rest => some (negated, set, rest)
    | _, _ => none
  | _ => none

/-- One member of a class: a character, or a set that an escape stands for. -/
def readMember (flags : Flags) : Text → Except PatternError (Primitive × Text)
  | [] => malformed
  | c :: rest => if c = '\\' then readEscape flags rest else .ok (.literal c, rest)

/-- A member that is a character, within ASCII if the flags restrict classes to it. -/
def memberChar (flags : Flags) : Primitive → Except PatternError Char
  | .literal c => if flags.unicode || c.toNat < 0x80 then .ok c else malformed
  | _ => malformed

/-- The set of a member that is not the end of a range. -/
def memberSet (flags : Flags) : Primitive → Except PatternError CharSet
  | .set set => .ok set
  | member => do
    let c ← memberChar flags member
    return (· = c)

/-- What decides whether a hyphen makes a range: of a comment only its sign is passed over. -/
def behindHyphen (flags : Flags) (text : Text) : Text :=
  if !flags.spaced then text
  else match text.dropWhile isBlank with
    | '#' :: rest => rest.dropWhile isBlank
    | rest => rest

/-- Whether a range goes on behind its hyphen. -/
def continuesRange (flags : Flags) (text : Text) : Bool :=
  (behindHyphen flags text).head?.all fun c => c ≠ ']' && c ≠ '-'

/-- Read a member or a range of a class. -/
def readRange (flags : Flags) (text : Text) : Except PatternError (CharSet × Text) := do
  let (first, rest) ← readMember flags text
  match skipIgnored flags rest with
  | '-' :: behind =>
    if continuesRange flags behind then
      let (last, rest) ← readMember flags (skipIgnored flags behind)
      let first ← memberChar flags first
      let last ← memberChar flags last
      if last < first then malformed else return (rangeSet first last, rest)
    else return (← memberSet flags first, '-' :: behind)
  | rest => return (← memberSet flags first, rest)

/-- Read hyphens at the start of a class, which are members of it. -/
def openHyphens (flags : Flags) (members : Members) (inComment : Bool) : Text → Members × Text
  | [] => (members, [])
  | c :: rest =>
    if inComment then openHyphens flags members (c ≠ '\n') rest
    else if c = '-' then openHyphens flags (members.add ⟨(· = '-'), 0⟩) false rest
    else if flags.spaced && c = '#' then openHyphens flags members true rest
    else if flags.spaced && isBlank c then openHyphens flags members false rest
    else (members, c :: rest)

/-- The first members of a class: hyphens, or a bracket that would close an empty class. -/
def openMembers (flags : Flags) (text : Text) : Members × Text :=
  match openHyphens flags .none false text with
  | (⟨_, []⟩, ']' :: rest) => (Members.none.add ⟨(· = ']'), 0⟩, rest)
  | opened => opened

/-- Whether a class is given by what it lacks, its first members, and the text behind them. -/
def openClass (flags : Flags) (text : Text) : Bool × Members × Text :=
  match skipIgnored flags text with
  | '^' :: rest => (true, openMembers flags (skipIgnored flags rest))
  | text => (false, openMembers flags text)

/-- The set of a closed class, which is a level of its own. -/
def closeClass (flags : Flags) (negated : Bool) (inner : Nested CharSet) :
    Except PatternError (Nested CharSet) := do
  return ⟨← settleSet flags negated inner.value, inner.depth + 1⟩

/-- Read the members of a class up to its closing bracket, at most `fuel` of them. -/
def readMembers (flags : Flags) (waiting : Option Waiting) (members : Members) :
    Nat → Text → Except PatternError (Nested CharSet × Text)
  | 0, _ => malformed
  | fuel + 1, text =>
    match skipIgnored flags text with
    | [] => malformed
    | ']' :: rest => .ok (closeOperation flags waiting members.close, rest)
    | '[' :: rest =>
      match namedClass? rest with
      | some (negated, set, rest) => do
        let set ← settleSet flags negated set
        readMembers flags waiting (members.add ⟨set, 0⟩) fuel rest
      | none => do
        let (negated, first, rest) := openClass flags rest
        let (inner, rest) ← readMembers flags none first fuel rest
        readMembers flags waiting (members.add (← closeClass flags negated inner)) fuel rest
    | text =>
      match operation? text with
      | some (operation, rest) =>
        let left := closeOperation flags waiting members.close
        readMembers flags (some ⟨operation, left⟩) .none fuel rest
      | none => do
        let (set, rest) ← readRange flags text
        readMembers flags waiting (members.add ⟨set, 0⟩) fuel rest

/-- Read a class behind its opening bracket. -/
def readClass (flags : Flags) (text : Text) : Except PatternError (Nested CharSet × Text) := do
  let (negated, first, rest) := openClass flags text
  let (inner, rest) ← readMembers flags none first (rest.length + 1) rest
  return (← closeClass flags negated inner, rest)

end TokenGuard.Regex
