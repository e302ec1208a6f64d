import TokenGuard.Json.Node

/-! JSON values: taken from a text that can be read to its end, and given back as nodes. -/

namespace TokenGuard.Json

/-- A JSON value whose members keep their order. -/
inductive Value
  | null
  | boolean (value : Bool)
  | number (value : Number)
  | string (value : Text)
  | array (items : List Value)
  | object (members : List (Text × Value))

/-- The number of arrays and objects that may not be open at once. -/
def depthLimit : Nat := 128

/-- Fail with a fault if there is one. -/
def raise : Option Fault → Except Fault Unit
  | some fault => .error fault
  | none => .ok ()

namespace Node

/-- The value of a node inside `opened` arrays and objects, or the first fault in text order. -/
def value (opened : Nat) : Node → Except Fault Value
  | null => .ok .null
  | boolean value => .ok (.boolean value)
  | number value => value.map .number
  | string value => value.map .string
  | array items stop => do
    if depthLimit ≤ opened + 1 then throw .tooDeep
    let values ← itemValues (opened + 1) items
    raise stop.whenRead
    return .array values
  | object members stop => do
    if depthLimit ≤ opened + 1 then throw .tooDeep
    let values ← memberValues (opened + 1) members
    raise stop.whenRead
    return .object values
  | broken cause => .error cause.read
where
  itemValues (opened : Nat) : List Node → Except Fault (List Value)
    | [] => .ok []
    | item :: items => do
      let first ← item.value opened
      let rest ← itemValues opened items
      return first :: rest
  memberValues (opened : Nat) : List (Except Fault Text × Node) → Except Fault (List (Text × Value))
    | [] => .ok []
    | (key, node) :: members => do
      let key ← key
      let first ← node.value opened
      let rest ← memberValues opened members
      return (key, first) :: rest

/-- Pass over a node, or give the first fault in text order. -/
def skip : Node → Except Fault Unit
  | null | boolean _ | number _ | string _ => .ok ()
  | array items stop => do
    skipItems items
    raise stop.whenSkipped
  | object members stop => do
    skipMembers members
    raise stop.whenSkipped
  | broken cause => .error cause.skip
where
  skipItems : List Node → Except Fault Unit
    | [] => .ok ()
    | item :: items => do
      item.skip
      skipItems items
  skipMembers : List (Except Fault Text × Node) → Except Fault Unit
    | [] => .ok ()
    | (_, node) :: members => do
      node.skip
      skipMembers members

/-- A value as the node that a text of it would be read as. -/
def ofValue : Value → Node
  | .null => null
  | .boolean value => boolean value
  | .number value => number (.ok value)
  | .string value => string (.ok value)
  | .array items => array (ofItems items) .closed
  | .object members => object (ofMembers members) .closed
where
  ofItems : List Value → List Node
    | [] => []
    | item :: items => ofValue item :: ofItems items
  ofMembers : List (Text × Value) → List (Except Fault Text × Node)
    | [] => []
    | (key, value) :: members => (.ok key, ofValue value) :: ofMembers members

end Node

namespace Value

/-- What a value is called where another one is expected. -/
def unexpected : Value → Unexpected
  | null => .null
  | boolean value => .boolean value
  | number value => .number value
  | string value => .string value
  | array _ => .sequence
  | object _ => .map

/-- Put a member behind the others, or in place of the one with its key. -/
def putMember (key : Text) (value : Value) : List (Text × Value) → List (Text × Value)
  | [] => [(key, value)]
  | (other, old) :: members =>
    if other = key then (key, value) :: members else (other, old) :: putMember key value members

/-- Keep one member for each repeated key: the first place, and the last value. -/
def mergeKeys : Value → Value
  | array items => array (mergeItems items)
  | object members => object (mergeMembers [] members)
  | value => value
where
  mergeItems : List Value → List Value
    | [] => []
    | item :: items => mergeKeys item :: mergeItems items
  mergeMembers (kept : List (Text × Value)) : List (Text × Value) → List (Text × Value)
    | [] => kept
    | (key, value) :: members => mergeMembers (putMember key (mergeKeys value) kept) members

end Value

/-- The value of a whole text. -/
def Value.ofText (text : Text) : Except Error Value :=
  (Document.ofText text).decode fun node =>
    match node.value 0 with
    | .ok value => .ok value.mergeKeys
    | .error fault => .error (.syntactic fault)

end TokenGuard.Json
