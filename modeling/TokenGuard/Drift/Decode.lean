import TokenGuard.Drift

/-! Reading drift reports, whose checks hold the members of their status beside the
section's name. -/

namespace TokenGuard

open Json (Decoded Decoder Misfit Node misfit liftFault raiseFault)

/-- The kinds of status by name. -/
inductive StatusKind
  | ok
  | drift
  | missing
  deriving DecidableEq

namespace StatusKind

/-- The kinds in order, with their names. -/
def choices : List (Text × StatusKind) := [("ok", ok), ("drift", drift), ("missing", missing)]

/-- The kind that a tag tells, by its name or by its place. -/
def ofTag : Json.Value → Decoded StatusKind
  | .string name => Json.chooseVariant choices name
  | .number (.integer place) =>
    if place < 0 then misfit (.invalidType (.number (.integer place)) "variant identifier")
    else match choices[place.toNat]? with
      | some (_, kind) => .ok kind
      | none => misfit (.invalidValue (.number (.integer place)) "variant index 0 <= i < 3")
  | value => misfit (.invalidType value.unexpected "variant identifier")

/-- The fields that a status of this kind has. -/
def fields : StatusKind → List Text
  | ok => ["hash"]
  | drift => ["expected", "actual"]
  | missing => ["reason"]

end StatusKind

/-- A string among members that have been read. -/
def stringMember : Json.Value → Decoded Text
  | .string text => .ok text
  | value => misfit (.invalidType value.unexpected "a string")

/-- Gather the string fields of a status from its members, each at most once. -/
def gatherStatusFields (fields : List Text) (gathered : List (Text × Text)) :
    List (Text × Json.Value) → Decoded (List (Text × Text))
  | [] => .ok gathered
  | (key, value) :: members =>
    if key ∈ fields then
      if (gathered.lookup key).isSome then misfit (.duplicateField key)
      else do gatherStatusFields fields ((key, ← stringMember value) :: gathered) members
    else gatherStatusFields fields gathered members

/-- A field that a status must have. -/
def statusField (gathered : List (Text × Text)) (field : Text) : Decoded Text :=
  Json.Record.required .missingField field (gathered.lookup field)

/-- Find the tag among members, which must hold it once, and give the members that are not it. -/
def splitTag (tag : Option StatusKind) :
    List (Text × Json.Value) → Decoded (Option StatusKind × List (Text × Json.Value))
  | [] => .ok (tag, [])
  | (key, value) :: members =>
    if key = "status".toList then
      if tag.isSome then misfit (.duplicateField key)
      else do splitTag (some (← StatusKind.ofTag value)) members
    else do
      let (tag, others) ← splitTag tag members
      return (tag, (key, value) :: others)

/-- The status that members describe. -/
def SectionStatus.ofMembers (members : List (Text × Json.Value)) : Decoded SectionStatus := do
  let (tag, members) ← splitTag none members
  let kind ← Json.Record.required .missingField "status" tag
  let gathered ← gatherStatusFields kind.fields [] members
  match kind with
  | .ok => return .ok (← statusField gathered "hash")
  | .drift =>
    let expected ← statusField gathered "expected"
    return .drift expected (← statusField gathered "actual")
  | .missing => return .missing (← statusField gathered "reason")

/-- The number of arrays and objects around a member of a check. -/
def checkMemberDepth : Nat := 3

/-- Separate the section's name, given once, from the members of its status. -/
def gatherCheck (name : Option Text) :
    List (Except Json.Fault Text × Node) → Decoded (Option Text × List (Text × Json.Value))
  | [] => .ok (name, [])
  | (key, node) :: members => do
    let key ← liftFault key
    if key = "section".toList then
      if name.isSome then misfit (.duplicateField key)
      else gatherCheck (some (← Json.decodeString node)) members
    else
      let value ← liftFault (node.value checkMemberDepth)
      let (name, others) ← gatherCheck name members
      return (name, (key, value) :: others)

/-- Decode a check. -/
def SectionCheck.decode : Decoder SectionCheck
  | .object members stop => do
    let (name, members) ← gatherCheck none members
    raiseFault stop.whenRead
    let name ← Json.Record.required .missingField "section" name
    return ⟨name, ← SectionStatus.ofMembers members⟩
  | node => Json.wrongType "struct SectionCheck" node

namespace DriftReport

/-- A report as a record. -/
def record : Json.Record (Option Text × Option (List SectionCheck)) DriftReport where
  expected := "struct DriftReport"
  fields := ["manifest_version", "sections"]
  strict := false
  blank := (none, none)
  put field node draft :=
    if field = "manifest_version".toList then
      return (some (← Json.decodeString node), draft.2)
    else return (draft.1, some (← Json.decodeList SectionCheck.decode node))
  finish missing draft := do
    let version ← Json.Record.required missing "manifest_version" draft.1
    return ⟨version, ← Json.Record.required missing "sections" draft.2⟩

/-- Read a report from a text. -/
def ofText (text : Text) : Decoded DriftReport :=
  (Json.Document.ofText text).decode (record.decode .text)

end DriftReport

end TokenGuard
