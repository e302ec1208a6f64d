import TokenGuard.Table.Basic

/-! Generated sections of an artifact, each bound to one table of the manifest. -/

namespace TokenGuard

/-- A generated section. -/
structure Section where
  /-- The name that its markers carry. -/
  name : Text
  /-- The table that it shows. -/
  table : Text
  /-- What the name of each of its tokens starts with. -/
  lead : Text
  /-- The layout that the table must have. -/
  layout : Layout
  deriving DecidableEq

namespace Section

/-- A section that shows the flat table of its own name. -/
def ofFlat (name lead : Text) : Section := ⟨name, name, lead, .flat⟩

/-- A section that shows the scaled table of its own name. -/
def ofScaled (name lead : Text) : Section := ⟨name, name, lead, .scaled⟩

/-- The sections of an artifact for which none are configured. -/
def standard : List Section :=
  [ofScaled "COLOR_PRIMITIVES" "--nx-",
    ofFlat "SEMANTICS" "--color-nx-",
    ofFlat "TYPOGRAPHY" "--nx-",
    ofFlat "SPACING" "--nx-space-",
    ofFlat "SPACING_SEMANTIC" "--nx-space-",
    ofFlat "SIZING" "--nx-",
    ofFlat "RADIUS" "--nx-radius-",
    ofFlat "BORDER" "--nx-border-",
    ofFlat "SHADOW" "--nx-shadow-",
    ofFlat "ZINDEX" "--nx-z-",
    ofFlat "MOTION" "--nx-",
    ofFlat "BREAKPOINTS" "--nx-bp-"]

/-- The fields of a section that have been read. -/
structure Draft where
  name : Option Text
  table : Option Text
  lead : Option Text
  layout : Option Layout

/-- Decode a layout by its name. -/
def decodeLayout (source : Json.Source) : Json.Decoder Layout :=
  Json.decodeVariant source [(Layout.flat.name, .flat), (Layout.scaled.name, .scaled)]

/-- A section as a record; without a layout it is flat. -/
def record (source : Json.Source) : Json.Record Draft Section where
  expected := "struct Section"
  fields := ["name", "table", "prefix", "layout"]
  strict := false
  blank := ⟨none, none, none, none⟩
  put field node draft :=
    if field = "name".toList then
      return { draft with name := some (← Json.decodeString node) }
    else if field = "table".toList then
      return { draft with table := some (← Json.decodeString node) }
    else if field = "prefix".toList then
      return { draft with lead := some (← Json.decodeString node) }
    else return { draft with layout := some (← decodeLayout source node) }
  finish missing draft := do
    return {
      name := ← Json.Record.required missing "name" draft.name
      table := ← Json.Record.required missing "table" draft.table
      lead := ← Json.Record.required missing "prefix" draft.lead
      layout := draft.layout.getD .flat }

/-- Decode a section. -/
def decode (source : Json.Source) : Json.Decoder Section := (record source).decode source

/-- Decode a list of sections. -/
def decodeList (source : Json.Source) : Json.Decoder (List Section) :=
  Json.decodeList (decode source)

/-- A section as a value. -/
def toValue (s : Section) : Json.Value :=
  .object [("name", .string s.name), ("table", .string s.table), ("prefix", .string s.lead),
    ("layout", .string s.layout.name)]

end Section

end TokenGuard
