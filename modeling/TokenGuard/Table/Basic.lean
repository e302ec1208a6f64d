import TokenGuard.Json.Canonical
import TokenGuard.Json.Decode
import TokenGuard.Table.KeyOrder

/-! Token tables, the lines they are printed as, and the fingerprint that stands for
their content. -/

namespace TokenGuard

/-- The shape of a table. -/
inductive Layout
  /-- A value for each key. -/
  | flat
  /-- A value for each step of each scale. -/
  | scaled
  deriving DecidableEq

/-- What a layout is called in a document. -/
def Layout.name : Layout → Text
  | flat => "flat"
  | scaled => "scaled"

/-- What a layout is called in a message. -/
def Layout.label : Layout → Text
  | flat => "Flat"
  | scaled => "Scaled"

/-- Values by key. -/
abbrev FlatTable := OrderedMap Text

/-- Values by scale and step. -/
abbrev ScaledTable := OrderedMap (OrderedMap Text)

/-- A table of token values. -/
inductive TokenTable
  | flat (table : FlatTable)
  | scaled (table : ScaledTable)
  deriving DecidableEq

namespace TokenTable

/-- The layout of a table. -/
def layout : TokenTable → Layout
  | flat _ => .flat
  | scaled _ => .scaled

/-- Whether a table has no entry. -/
def isEmpty : TokenTable → Bool
  | flat table => table.isEmpty
  | scaled table => table.isEmpty

/-- Whether a table can be used where a layout is expected, which an empty one always can. -/
def fits (table : TokenTable) (expected : Layout) : Bool :=
  table.layout == expected || table.isEmpty

/-- The line of one token. -/
def line (lead key value : Text) : Text := lead ++ key ++ ": " ++ value ++ ";"

/-- One line for each key, in printing order. -/
def flatLines (lead : Text) (table : FlatTable) : List Text :=
  (sortByKey compareKeys table.entries).map fun (key, value) => line lead key value

/-- One line for each step, by the bytes of the scale and then in printing order of the steps. -/
def scaledLines (lead : Text) (table : ScaledTable) : List Text :=
  (sortByKey Text.compareBytes table.entries).flatMap fun (scale, steps) =>
    (sortByKey compareKeys steps.entries).map fun (step, value) =>
      line lead (scale ++ ['-'] ++ step) value

/-- The lines of a table, each token's name starting with `lead`. -/
def lines (lead : Text) : TokenTable → List Text
  | flat table => flatLines lead table
  | scaled table => scaledLines lead table

/-- A flat table as an object of strings. -/
def flatValue (table : FlatTable) : Json.Value :=
  .object (table.entries.map fun (key, value) => (key, .string value))

/-- A table as a value. -/
def toValue : TokenTable → Json.Value
  | flat table => flatValue table
  | scaled table => .object (table.entries.map fun (scale, steps) => (scale, flatValue steps))

/-- The canonical text of a table. -/
def canonicalText (table : TokenTable) : Text := table.toValue.canonicalText

/-- The fingerprint of a table. -/
def fingerprint (table : TokenTable) : Text := table.toValue.fingerprint

/-- The strings of an object that holds nothing else. -/
def flatEntries? : List (Text × Json.Value) → Option (List (Text × Text))
  | [] => some []
  | (key, .string value) :: members => (flatEntries? members).map ((key, value) :: ·)
  | _ => none

/-- The tables of an object that holds nothing but objects of strings. -/
def scaledEntries? : List (Text × Json.Value) → Option (List (Text × FlatTable))
  | [] => some []
  | (scale, .object steps) :: members => do
    let steps ← flatEntries? steps
    let entries ← scaledEntries? members
    return (scale, .ofList steps) :: entries
  | _ => none

/-- The table that a value describes; an empty object is a flat table. -/
def ofValue? : Json.Value → Option TokenTable
  | .object members =>
    match flatEntries? members with
    | some entries => some (flat (.ofList entries))
    | none => (scaledEntries? members).map fun entries => scaled (.ofList entries)
  | _ => none

/-- Decode a table inside a number of open arrays and objects. -/
def decode (opened : Nat) : Json.Decoder TokenTable := fun node => do
  match ofValue? (← Json.liftFault (node.value opened)) with
  | some table => return table
  | none =>
    Json.misfit (.rejected "data did not match any variant of untagged enum TokenTable")

end TokenTable

end TokenGuard
