import TokenGuard.Section
import TokenGuard.SourceTree

/-! The configuration of a project; every path in it is seen from the project's root. -/

namespace TokenGuard

/-- The files that a command looks at. -/
structure TreeConfig where
  roots : List Path
  extensions : List Text
  exclude : List Text
  deriving DecidableEq

/-- The configuration of a project. -/
structure GuardConfig where
  manifest : Path
  artifact : Path
  /-- The rename map; without one the shipped map is used. -/
  renameMap : Option Path
  /-- The sections; without any the standard ones are used. -/
  sections : Option (List Section)
  /-- The files to migrate. -/
  migrate : TreeConfig
  /-- The files to check. -/
  check : TreeConfig
  deriving DecidableEq

/-- Decode a path. -/
def decodePath : Json.Decoder Path := Json.decodeText "path string"

namespace TreeConfig

/-- The extensions of files when none are configured. -/
def standardExtensions : List Text := ["tsx", "ts", "jsx", "js", "css"]

/-- The files to migrate when none are configured. -/
def forMigrate : TreeConfig where
  roots := ["apps/portal", "ui/dashboard"]
  extensions := standardExtensions
  exclude := ["node_modules", ".next", ".git", "dist", "build", "coverage", "*.d.ts"]

/-- The files to check when none are configured. -/
def forCheck : TreeConfig where
  roots := ["apps/portal", "ui", "packages"]
  extensions := standardExtensions
  exclude := ["node_modules", ".next", "dist", "coverage", ".turbo", "canonical.json",
    "rename_map.json", "style.css"]

/-- The fields of a tree that have been read. -/
structure Draft where
  roots : Option (List Path)
  extensions : Option (List Text)
  exclude : Option (List Text)

/-- A tree as a record, in which only the roots are required. -/
def record : Json.Record Draft TreeConfig where
  expected := "struct TreeConfig"
  fields := ["roots", "extensions", "exclude"]
  strict := true
  blank := ⟨none, none, none⟩
  put field node draft :=
    if field = "roots".toList then
      return { draft with roots := some (← Json.decodeList decodePath node) }
    else if field = "extensions".toList then
      return { draft with extensions := some (← Json.decodeList Json.decodeString node) }
    else return { draft with exclude := some (← Json.decodeList Json.decodeString node) }
  finish missing draft := do
    return {
      roots := ← Json.Record.required missing "roots" draft.roots
      extensions := draft.extensions.getD standardExtensions
      exclude := draft.exclude.getD [] }

/-- The source tree below a project's root. -/
def resolve (config : TreeConfig) (root : Path) : SourceTree :=
  ⟨config.roots.map root.join, config.extensions, config.exclude⟩

/-- A tree as a value. -/
def toValue (config : TreeConfig) : Json.Value :=
  .object [("roots", .ofTexts config.roots), ("extensions", .ofTexts config.extensions),
    ("exclude", .ofTexts config.exclude)]

end TreeConfig

namespace GuardConfig

/-- The configuration of a project without a configuration file. -/
def standard : GuardConfig where
  manifest := "ui/canonical.json"
  artifact := "ui/input.css"
  renameMap := none
  sections := none
  migrate := .forMigrate
  check := .forCheck

/-- The name of the configuration file. -/
def fileName : Path := "nexus-guard.json"

/-- A configuration as a record; a missing field keeps its standard value. -/
def record : Json.Record GuardConfig GuardConfig where
  expected := "struct GuardConfig"
  fields := ["manifest", "artifact", "rename_map", "sections", "migrate", "check"]
  strict := true
  blank := standard
  put field node config :=
    if field = "manifest".toList then return { config with manifest := ← decodePath node }
    else if field = "artifact".toList then return { config with artifact := ← decodePath node }
    else if field = "rename_map".toList then
      return { config with renameMap := ← Json.decodeOptional decodePath node }
    else if field = "sections".toList then
      return { config with sections := ← Json.decodeOptional (Section.decodeList .text) node }
    else if field = "migrate".toList then
      return { config with migrate := ← TreeConfig.record.decode .text node }
    else return { config with check := ← TreeConfig.record.decode .text node }
  finish _ config := .ok config

/-- Read a configuration from a text. -/
def ofText (text : Text) : Json.Decoded GuardConfig :=
  (Json.Document.ofText text).decode (record.decode .text)

/-- The sections of the artifact. -/
def activeSections (config : GuardConfig) : List Section := config.sections.getD Section.standard

/-- A value, or null for nothing. -/
def optionalValue {α : Type} (toValue : α → Json.Value) : Option α → Json.Value
  | some value => toValue value
  | none => .null

/-- A configuration as a value. -/
def toValue (config : GuardConfig) : Json.Value :=
  .object [("manifest", .string config.manifest), ("artifact", .string config.artifact),
    ("rename_map", optionalValue .string config.renameMap),
    ("sections", optionalValue (fun sections => .array (sections.map Section.toValue))
      config.sections),
    ("migrate", config.migrate.toValue), ("check", config.check.toValue)]

end GuardConfig

end TokenGuard
