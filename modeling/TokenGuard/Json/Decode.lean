import TokenGuard.Json.Value
import TokenGuard.OrderedMap

/-! Decoding nodes into data; of several things that are wrong, the first in text order
is reported. -/

namespace TokenGuard.Json

/-- Where a node comes from: read from a text, or a value that was read before. -/
inductive Source
  | text
  | value
  deriving DecidableEq

/-- The outcome of decoding. -/
abbrev Decoded := Except Error

/-- A decoder for one kind of data. -/
abbrev Decoder (α : Type) := Node → Decoded α

/-- Fail because data does not fit. -/
def misfit {α : Type} (cause : Misfit) : Decoded α := .error (.data cause)

/-- Fail with a fault of the text. -/
def faulty {α : Type} (fault : Fault) : Decoded α := .error (.syntactic fault)

/-- Fail with a fault of the text if there is one. -/
def raiseFault : Option Fault → Decoded Unit
  | some fault => faulty fault
  | none => .ok ()

/-- A fault of the text is an error. -/
def liftFault {α : Type} : Except Fault α → Decoded α
  | .ok value => .ok value
  | .error fault => faulty fault

/-- Reject a node of the wrong type, after reading it if it is a scalar. -/
def wrongType {α : Type} (expected : Text) : Decoder α
  | .null => misfit (.invalidType .null expected)
  | .boolean value => misfit (.invalidType (.boolean value) expected)
  | .number value => do misfit (.invalidType (.number (← liftFault value)) expected)
  | .string value => do misfit (.invalidType (.string (← liftFault value)) expected)
  | .array .. => misfit (.invalidType .sequence expected)
  | .object .. => misfit (.invalidType .map expected)
  | .broken cause => faulty cause.read

/-- A string, called by what it should hold. -/
def decodeText (expected : Text) : Decoder Text
  | .string value => liftFault value
  | node => wrongType expected node

/-- Any string. -/
def decodeString : Decoder Text := decodeText "a string"

/-- The items of a list, in order. -/
def decodeItems {α : Type} (decode : Decoder α) : List Node → Decoded (List α)
  | [] => .ok []
  | item :: items => do
    let first ← decode item
    let rest ← decodeItems decode items
    return first :: rest

/-- An array of any length. -/
def decodeList {α : Type} (decode : Decoder α) : Decoder (List α)
  | .array items stop => do
    let values ← decodeItems decode items
    raiseFault stop.whenRead
    return values
  | node => wrongType "a sequence" node

/-- The entries of an object, added in order to those read before. -/
def decodeEntries {α : Type} (decode : Decoder α) (map : OrderedMap α) :
    List (Except Fault Text × Node) → Decoded (OrderedMap α)
  | [] => .ok map
  | (key, node) :: members => do
    let key ← liftFault key
    let value ← decode node
    decodeEntries decode (map.insert key value) members

/-- An object with any keys; a repeated key keeps its place and takes the last value. -/
def decodeMap {α : Type} (decode : Decoder α) : Decoder (OrderedMap α)
  | .object members stop => do
    let map ← decodeEntries decode .empty members
    raiseFault stop.whenRead
    return map
  | node => wrongType "a map" node

/-- Nothing, or something to decode. -/
def decodeOptional {α : Type} (decode : Decoder α) : Decoder (Option α)
  | .null => .ok none
  | node => (decode node).map some

/-- A record with named fields, gathered one by one into a draft. -/
structure Record (draft α : Type) where
  /-- What a value of another type is told to be. -/
  expected : Text
  /-- The fields in order, which is also their order in an array. -/
  fields : List Text
  /-- Whether other fields are rejected. -/
  strict : Bool
  /-- The draft without any field. -/
  blank : draft
  /-- Decode the field of a name into the draft. -/
  put : Text → Node → draft → Decoded draft
  /-- The record of a draft, given the complaint about a required field that is missing. -/
  finish : (Text → Misfit) → draft → Decoded α

namespace Record

variable {draft α : Type}

/-- Gather the fields of an object, each of them at most once. -/
def gatherMembers (record : Record draft α) (seen : List Text) (gathered : draft) :
    List (Except Fault Text × Node) → Decoded draft
  | [] => .ok gathered
  | (key, node) :: members => do
    let key ← liftFault key
    if key ∈ record.fields then
      if key ∈ seen then misfit (.duplicateField key)
      else gatherMembers record (key :: seen) (← record.put key node gathered) members
    else if record.strict then misfit (.unknownField key record.fields)
    else
      liftFault node.skip
      gatherMembers record seen gathered members

/-- Gather fields by position, and give the items that are left over. -/
def gatherItems (record : Record draft α) (gathered : draft) :
    List Text → List Node → Decoded (draft × Bool × List Node)
  | [], items => .ok (gathered, true, items)
  | _ :: _, [] => .ok (gathered, false, [])
  | field :: fields, item :: items => do
    gatherItems record (← record.put field item gathered) fields items

/-- The complaint about a required element that an array of this length lacks. -/
def missingElement (record : Record draft α) (field : Text) : Misfit :=
  .invalidLength (record.fields.idxOf field)
    (record.expected ++ " with " ++ Text.ofNat record.fields.length ++ " elements")

/-- Decode an object by names or an array by positions. -/
def decode (record : Record draft α) (source : Source) : Decoder α
  | .object members stop => do
    let gathered ← record.gatherMembers [] record.blank members
    raiseFault stop.whenRead
    record.finish .missingField gathered
  | .array items stop => do
    let (gathered, full, left) ← record.gatherItems record.blank record.fields items
    if !full then raiseFault stop.whenRead
    let value ← record.finish record.missingElement gathered
    if full then
      match source, left with
      | .text, [] => raiseFault stop.whenFull
      | .text, _ :: _ => faulty .trailingCharacters
      | .value, [] => pure ()
      | .value, _ :: _ => misfit (.invalidLength items.length "fewer elements in array")
    return value
  | node => wrongType record.expected node

/-- A required field of a draft. -/
def required {α : Type} (missing : Text → Misfit) (field : Text) : Option α → Decoded α
  | some value => .ok value
  | none => misfit (missing field)

end Record

/-- The last step of naming an alternative in an object: nothing but `null` may follow the name. -/
def decodeUnit : Decoder Unit
  | .null => .ok ()
  | node => wrongType "unit" node

/-- Look up an alternative by its name. -/
def chooseVariant {α : Type} (choices : List (Text × α)) (name : Text) : Decoded α :=
  match choices.lookup name with
  | some value => .ok value
  | none => misfit (.unknownVariant name (choices.map Prod.fst))

/-- One of several named alternatives, as a string or as the only key of an object. -/
def decodeVariant {α : Type} (source : Source) (choices : List (Text × α)) : Decoder α
  | .string name => do chooseVariant choices (← liftFault name)
  | .object [(name, node)] stop => do
    let value ← chooseVariant choices (← liftFault name)
    decodeUnit node
    match stop with
    | .closed => return value
    | .unclosed => faulty .endInObject
    | _ => faulty .noValue
  | .object members stop =>
    match source, members, stop with
    | .value, _, _ => misfit (.invalidValue .map "map with a single key")
    | .text, (name, node) :: _, _ => do
      let _ ← chooseVariant choices (← liftFault name)
      decodeUnit node
      faulty .noValue
    | .text, [], .unclosed => faulty .endInObject
    | .text, [], .noKey => faulty .noKey
    | .text, [], .brokenKey cause => faulty cause.read
    | .text, [], _ => faulty .noValue
  | .broken cause => faulty cause.name
  | node =>
    match source with
    | .text => faulty .noValue
    | .value => wrongType "string or map" node

end TokenGuard.Json
