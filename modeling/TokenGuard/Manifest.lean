import TokenGuard.Section
import TokenGuard.Version

/-! The token manifest: versioned tables, forbidden patterns and the palette of raw colors. -/

namespace TokenGuard

/-- The parts of raw color classes such as `bg-gray-500`. -/
structure RawPalette where
  /-- The utilities that come first. -/
  utilities : List Text
  /-- The color names behind them. -/
  names : List Text
  deriving DecidableEq

namespace RawPalette

/-- The palette without colors. -/
def none : RawPalette := ⟨[], []⟩

/-- Whether no color class can be built from the palette. -/
def isEmpty (palette : RawPalette) : Bool := palette.utilities.isEmpty || palette.names.isEmpty

/-- A palette as a record; a missing field is an empty list. -/
def record : Json.Record (Option (List Text) × Option (List Text)) RawPalette where
  expected := "struct RawPalette"
  fields := ["utilities", "names"]
  strict := false
  blank := (.none, .none)
  put field node draft :=
    if field = "utilities".toList then
      return (some (← Json.decodeList Json.decodeString node), draft.2)
    else return (draft.1, some (← Json.decodeList Json.decodeString node))
  finish _ draft := .ok ⟨draft.1.getD [], draft.2.getD []⟩

/-- Decode a palette. -/
def decode (source : Json.Source) : Json.Decoder RawPalette := record.decode source

/-- A palette as a value. -/
def toValue (palette : RawPalette) : Json.Value :=
  .object [("utilities", .ofTexts palette.utilities), ("names", .ofTexts palette.names)]

end RawPalette

/-- The token manifest. -/
structure Manifest where
  version : Version
  /-- The tables by name. -/
  tables : OrderedMap TokenTable
  /-- Patterns that no source file may contain. -/
  forbiddenPatterns : List Text
  rawPalette : RawPalette
  deriving DecidableEq

/-- Why a manifest cannot serve its sections. -/
inductive ManifestMismatch
  /-- A table that a section shows does not exist. -/
  | missingTable (table : Text)
  /-- A table has another layout than its section expects. -/
  | layout (name table : Text) (expected actual : Layout)
  deriving DecidableEq

/-- The wording of a mismatch. -/
def ManifestMismatch.message : ManifestMismatch → Text
  | missingTable table => "Missing token table: " ++ table
  | layout name table expected actual =>
    "Token table " ++ table ++ " has " ++ actual.label ++ " layout, section " ++ name ++
      " expects " ++ expected.label

namespace Manifest

/-- The table that a section shows. -/
def tableFor (manifest : Manifest) (s : Section) : Except ManifestMismatch TokenTable :=
  match manifest.tables.get? s.table with
  | some table => .ok table
  | none => .error (.missingTable s.table)

/-- Check that one section finds its table in the layout it expects. -/
def requireOne (manifest : Manifest) (s : Section) : Except ManifestMismatch Unit := do
  let table ← manifest.tableFor s
  if !table.fits s.layout then throw (.layout s.name s.table s.layout table.layout)

/-- Check the sections in order. -/
def require (manifest : Manifest) (sections : List Section) : Except ManifestMismatch Unit :=
  sections.forM manifest.requireOne

/-- The fields of a manifest that have been read. -/
structure Draft where
  version : Option Version
  tables : Option (OrderedMap TokenTable)
  forbiddenPatterns : Option (List Text)
  rawPalette : Option RawPalette

/-- Decode a version from its text. -/
def decodeVersion : Json.Decoder Version := fun node => do
  match Version.ofText (← Json.decodeText "semver version" node) with
  | .ok version => return version
  | .error fault => Json.misfit (.rejected fault.message)

/-- The number of arrays and objects around a table of a manifest. -/
def tableDepth : Nat := 2

/-- A manifest as a record; everything but the version may be missing. -/
def record : Json.Record Draft Manifest where
  expected := "struct Manifest"
  fields := ["version", "tables", "forbidden_patterns", "raw_palette"]
  strict := false
  blank := ⟨none, none, none, none⟩
  put field node draft :=
    if field = "version".toList then
      return { draft with version := some (← decodeVersion node) }
    else if field = "tables".toList then
      return { draft with tables := some (← Json.decodeMap (TokenTable.decode tableDepth) node) }
    else if field = "forbidden_patterns".toList then
      return { draft with forbiddenPatterns := some (← Json.decodeList Json.decodeString node) }
    else return { draft with rawPalette := some (← RawPalette.decode .text node) }
  finish missing draft := do
    return {
      version := ← Json.Record.required missing "version" draft.version
      tables := draft.tables.getD .empty
      forbiddenPatterns := draft.forbiddenPatterns.getD []
      rawPalette := draft.rawPalette.getD .none }

/-- Read a manifest from a text. -/
def ofText (text : Text) : Json.Decoded Manifest :=
  (Json.Document.ofText text).decode (record.decode .text)

/-- A manifest as a value. -/
def toValue (manifest : Manifest) : Json.Value :=
  .object [("version", .string manifest.version.toText),
    ("tables", .object (manifest.tables.entries.map fun (name, table) => (name, table.toValue))),
    ("forbidden_patterns", .ofTexts manifest.forbiddenPatterns),
    ("raw_palette", manifest.rawPalette.toValue)]

/-- The text of a manifest on one line. -/
def toText (manifest : Manifest) : Text := manifest.toValue.compact

end Manifest

end TokenGuard
