import TokenGuard.Drift.Decode
import TokenGuard.Manifest
import TokenGuard.Proofs.Json.Reading
import TokenGuard.Proofs.Table.RoundTrip
import TokenGuard.Proofs.Version.Canonical
import TokenGuard.RenameMap

/-! Documents that were read are written as texts that are read as the same documents. -/

namespace TokenGuard

open Json (Node Numberless Restores Spells Value)

variable {text : Text} {manifest : Manifest} {map : RenameMap} {report : DriftReport}

/-- A text that spells what is written of some data is decoded as these data. -/
theorem Json.Restores.decode_ofText {α : Type} {decode : Json.Decoder α} {write : α → Value}
    {data : α} (restores : Restores decode write data) (spells : Spells (write data) text) :
    (Json.Document.ofText text).decode decode = .ok data := by
  have written : decode (.ofValue (write data)) = .ok data := restores
  rw [spells.ofText, Json.Document.decode, written]
  rfl

/-- Restored data without numbers are decoded from their line and from their lines. -/
theorem Json.Restores.decode_written {α : Type} {decode : Json.Decoder α} {write : α → Value}
    {data : α} (restores : Restores decode write data) (numberless : Numberless (write data)) :
    (Json.Document.ofText (write data).compact).decode decode = .ok data ∧
      (Json.Document.ofText ((write data).pretty 0)).decode decode = .ok data :=
  ⟨restores.decode_ofText (numberless.mono nofun).spells_compact,
    restores.decode_ofText ((numberless.mono nofun).spells_pretty 0)⟩

/-- A list of texts has no numbers. -/
theorem numberless_ofTexts (texts : List Text) : Numberless (.ofTexts texts) :=
  .array (List.forall_mem_map.mpr fun _ _ => .string _)

namespace RawPalette

/-- A palette is restored. -/
theorem restores (palette : RawPalette) : Restores (decode .text) toValue palette := by
  have utilities : ∀ draft : Option (List Text) × Option (List Text),
      record.put "utilities".toList (.ofValue (.ofTexts palette.utilities)) draft =
        .ok (some palette.utilities, draft.2) := by
    intro draft
    exact bind_eq_ok_iff.mpr ⟨_, Json.restores_texts palette.utilities, rfl⟩
  have names : ∀ draft : Option (List Text) × Option (List Text),
      record.put "names".toList (.ofValue (.ofTexts palette.names)) draft =
        .ok (draft.1, some palette.names) := by
    intro draft
    exact bind_eq_ok_iff.mpr ⟨_, Json.restores_texts palette.names, rfl⟩
  -- From the blank draft, each field in turn is put as it was written.
  rw [Restores, toValue, decode, Json.Record.decode_ofValue_object .text rfl (by decide),
    foldlM_cons_of_ok (utilities _), foldlM_cons_of_ok (names _)]
  rfl

/-- A palette has no numbers. -/
theorem numberless_toValue (palette : RawPalette) : Numberless palette.toValue :=
  .cons (numberless_ofTexts palette.utilities) <|
    .cons (numberless_ofTexts palette.names) .nil

end RawPalette

namespace Manifest

/-- A manifest that can be told from its value: its version is accepted in the text that it is
displayed as, and the value of each table tells its layout. -/
structure Definite (manifest : Manifest) : Prop where
  version : Version.ofText manifest.version.toText = .ok manifest.version
  tables : ∀ entry ∈ manifest.tables.entries, entry.2.Definite

/-- A version that is accepted in the text that it is displayed as is restored. -/
theorem restores_version {version : Version}
    (displayed : Version.ofText version.toText = .ok version) :
    Restores decodeVersion (fun version => .string version.toText) version := by
  have text : Json.decodeText "semver version" (.ofValue (.string version.toText)) =
      .ok version.toText := rfl
  -- Decoding a version is reading a text and accepting it.
  refine bind_eq_ok_iff.mpr ⟨_, text, ?_⟩
  rw [displayed]
  rfl

/-- Tables whose values tell their layouts are restored. -/
theorem restores_tables {tables : OrderedMap TokenTable}
    (definite : ∀ entry ∈ tables.entries, entry.2.Definite) :
    Restores (Json.decodeMap (TokenTable.decode tableDepth))
      (fun tables => .object (tables.entries.map fun (name, table) => (name, table.toValue)))
      tables :=
  Json.restores_map fun entry member => TokenTable.restores (by decide) (definite entry member)

/-- A manifest that can be told from its value is restored. -/
theorem Definite.restores (definite : manifest.Definite) :
    Restores (record.decode .text) toValue manifest := by
  -- Every field of the draft is filled by the decoder of what was written into it.
  have version : ∀ draft : Draft,
      record.put "version".toList (.ofValue (.string manifest.version.toText)) draft =
        .ok { draft with version := some manifest.version } := by
    intro draft
    exact bind_eq_ok_iff.mpr ⟨_, restores_version definite.version, rfl⟩
  have tables : ∀ draft : Draft,
      record.put "tables".toList (.ofValue (.object
          (manifest.tables.entries.map fun (name, table) => (name, table.toValue)))) draft =
        .ok { draft with tables := some manifest.tables } := by
    intro draft
    exact bind_eq_ok_iff.mpr ⟨_, restores_tables definite.tables, rfl⟩
  have patterns : ∀ draft : Draft,
      record.put "forbidden_patterns".toList (.ofValue (.ofTexts manifest.forbiddenPatterns))
        draft = .ok { draft with forbiddenPatterns := some manifest.forbiddenPatterns } := by
    intro draft
    exact bind_eq_ok_iff.mpr ⟨_, Json.restores_texts manifest.forbiddenPatterns, rfl⟩
  have palette : ∀ draft : Draft,
      record.put "raw_palette".toList (.ofValue manifest.rawPalette.toValue) draft =
        .ok { draft with rawPalette := some manifest.rawPalette } := by
    intro draft
    exact bind_eq_ok_iff.mpr ⟨_, manifest.rawPalette.restores, rfl⟩
  rw [Restores, toValue, Json.Record.decode_ofValue_object .text rfl (by decide),
    foldlM_cons_of_ok (version _), foldlM_cons_of_ok (tables _), foldlM_cons_of_ok (patterns _),
    foldlM_cons_of_ok (palette _)]
  rfl

/-- An accepted version is accepted in the text that it is displayed as. -/
theorem ofText_toText_of_decodeVersion {node : Node} {version : Version}
    (decoded : decodeVersion node = .ok version) :
    Version.ofText version.toText = .ok version := by
  -- The version was accepted in one text only, the one that it is displayed as.
  obtain ⟨displayed, -, decoded⟩ := bind_eq_ok_iff.mp decoded
  split at decoded
  · next accepted =>
    obtain rfl := Except.ok.inj decoded
    rw [Version.toText_of_ofText accepted, accepted]
  · cases decoded

/-- What was put into a draft can be told from its value. -/
structure Draft.Definite (draft : Draft) : Prop where
  version : ∀ version ∈ draft.version, Version.ofText version.toText = .ok version
  tables : ∀ tables ∈ draft.tables, ∀ entry ∈ tables.entries, entry.2.Definite

/-- Each field of a manifest is put so that it can be told from its value. -/
theorem keeps_definite : record.Keeps Draft.Definite := by
  intro field node old new definite put
  -- Only the first two fields put something that has to be told.
  dsimp only [record] at put
  split at put
  · obtain ⟨version, decoded, same⟩ := bind_eq_ok_iff.mp put
    obtain rfl := Except.ok.inj same
    refine ⟨?_, definite.tables⟩
    intro other isIt
    obtain rfl := Option.some.inj isIt
    exact ofText_toText_of_decodeVersion decoded
  · split at put
    · obtain ⟨tables, decoded, same⟩ := bind_eq_ok_iff.mp put
      obtain rfl := Except.ok.inj same
      refine ⟨definite.version, ?_⟩
      intro other isIt
      obtain rfl := Option.some.inj isIt
      exact Json.of_decodeMap (fun node table => TokenTable.definite_of_decode) decoded
    · split at put
      · obtain ⟨patterns, -, same⟩ := bind_eq_ok_iff.mp put
        obtain rfl := Except.ok.inj same
        exact ⟨definite.version, definite.tables⟩
      · obtain ⟨palette, -, same⟩ := bind_eq_ok_iff.mp put
        obtain rfl := Except.ok.inj same
        exact ⟨definite.version, definite.tables⟩

/-- An accepted manifest can be told from its value. -/
theorem definite_of_ofText (accepted : ofText text = .ok manifest) : manifest.Definite := by
  -- The blank draft has no fields to be told.
  have blank : record.blank.Definite :=
    ⟨fun _ isIt => absurd isIt (Option.not_mem_none _),
      fun _ isIt => absurd isIt (Option.not_mem_none _)⟩
  obtain ⟨missing, draft, definite, finished⟩ :=
    keeps_definite.of_decode blank (Json.Document.of_decode accepted)
  obtain ⟨version, required, same⟩ := bind_eq_ok_iff.mp finished
  obtain rfl := Except.ok.inj same
  refine ⟨definite.version version (Json.Record.required_eq_ok_iff.mp required), ?_⟩
  -- Without tables in the text there is no entry.
  intro entry member
  cases given : draft.tables with
  | none =>
    simp [given, OrderedMap.empty] at member
  | some tables =>
    exact definite.tables tables given entry (by simpa [given] using member)

/-- A manifest has no numbers. -/
theorem numberless_toValue (manifest : Manifest) : Numberless manifest.toValue :=
  .cons (.string _) <|
    .cons (.object (List.forall_mem_map.mpr fun table _ => table.2.numberless_toValue)) <|
      .cons (numberless_ofTexts manifest.forbiddenPatterns) <|
        .cons manifest.rawPalette.numberless_toValue .nil

end Manifest

namespace RenameMap

/-- A contextual rule is restored. -/
theorem restores_contextual (rule : ContextualRule) :
    Restores (contextualRecord.decode .text) contextualValue rule := by
  -- All three fields are texts, which are decoded as they stand.
  have name : ∀ draft : Option Text × Option Text × Option Text,
      contextualRecord.put "name".toList (.ofValue (.string rule.name)) draft =
        .ok (some rule.name, draft.2) := fun _ => rfl
  have pattern : ∀ draft : Option Text × Option Text × Option Text,
      contextualRecord.put "pattern".toList (.ofValue (.string rule.pattern)) draft =
        .ok (draft.1, some rule.pattern, draft.2.2) := fun _ => rfl
  have replacement : ∀ draft : Option Text × Option Text × Option Text,
      contextualRecord.put "replacement".toList (.ofValue (.string rule.replacement)) draft =
        .ok (draft.1, draft.2.1, some rule.replacement) := fun _ => rfl
  rw [Restores, contextualValue, Json.Record.decode_ofValue_object .text rfl (by decide),
    foldlM_cons_of_ok (name _), foldlM_cons_of_ok (pattern _), foldlM_cons_of_ok (replacement _)]
  rfl

/-- A rename map is restored. -/
theorem restores (map : RenameMap) : Restores (record.decode .text) toValue map := by
  have lead : ∀ draft : Draft,
      record.put "legacy_prefix".toList (.ofValue (.string map.legacyLead)) draft =
        .ok { draft with legacyLead := some map.legacyLead } := fun _ => rfl
  have classes : ∀ draft : Draft,
      record.put "classes".toList (.ofValue (TokenTable.flatValue map.classes)) draft =
        .ok { draft with classes := some map.classes } := by
    intro draft
    exact bind_eq_ok_iff.mpr ⟨_, TokenTable.restores_flatValue map.classes, rfl⟩
  have rawValues : ∀ draft : Draft,
      record.put "raw_values".toList (.ofValue (TokenTable.flatValue map.rawValues)) draft =
        .ok { draft with rawValues := some map.rawValues } := by
    intro draft
    exact bind_eq_ok_iff.mpr ⟨_, TokenTable.restores_flatValue map.rawValues, rfl⟩
  have imports : ∀ draft : Draft,
      record.put "imports".toList (.ofValue (TokenTable.flatValue map.imports)) draft =
        .ok { draft with imports := some map.imports } := by
    intro draft
    exact bind_eq_ok_iff.mpr ⟨_, TokenTable.restores_flatValue map.imports, rfl⟩
  have contextual : ∀ draft : Draft,
      record.put "contextual".toList
          (.ofValue (.array (map.contextual.map contextualValue))) draft =
        .ok { draft with contextual := some map.contextual } := by
    intro draft
    have restored := Json.restores_list fun rule (_ : rule ∈ map.contextual) =>
      restores_contextual rule
    exact bind_eq_ok_iff.mpr ⟨_, restored, rfl⟩
  have canonical : ∀ draft : Draft,
      record.put "canonical_classes".toList (.ofValue (.ofTexts map.canonicalClasses)) draft =
        .ok { draft with canonicalClasses := some map.canonicalClasses } := by
    intro draft
    exact bind_eq_ok_iff.mpr ⟨_, Json.restores_texts map.canonicalClasses, rfl⟩
  rw [Restores, toValue, Json.Record.decode_ofValue_object .text rfl (by decide),
    foldlM_cons_of_ok (lead _), foldlM_cons_of_ok (classes _), foldlM_cons_of_ok (rawValues _),
    foldlM_cons_of_ok (imports _), foldlM_cons_of_ok (contextual _),
    foldlM_cons_of_ok (canonical _)]
  rfl

/-- A rename map has no numbers. -/
theorem numberless_toValue (map : RenameMap) : Numberless map.toValue := by
  have rules : Numberless (.array (map.contextual.map contextualValue)) :=
    .array (List.forall_mem_map.mpr fun _ _ =>
      .cons (.string _) (.cons (.string _) (.cons (.string _) .nil)))
  exact .cons (.string _) <|
    .cons (TokenTable.numberless_flatValue map.classes) <|
      .cons (TokenTable.numberless_flatValue map.rawValues) <|
        .cons (TokenTable.numberless_flatValue map.imports) <|
          .cons rules <| .cons (numberless_ofTexts map.canonicalClasses) .nil

end RenameMap

namespace DriftReport

/-- A check is restored, with its kind of status and all its texts. -/
theorem restores_check (check : SectionCheck) : Restores SectionCheck.decode checkValue check := by
  -- Every kind of status has members of its own.
  obtain ⟨name, status⟩ := check
  cases status with
  | ok hash => rfl
  | drift expected actual => rfl
  | missing reason => rfl

/-- A report is restored. -/
theorem restores (report : DriftReport) : Restores (record.decode .text) toValue report := by
  have version : ∀ draft : Option Text × Option (List SectionCheck),
      record.put "manifest_version".toList (.ofValue (.string report.manifestVersion)) draft =
        .ok (some report.manifestVersion, draft.2) := fun _ => rfl
  have sections : ∀ draft : Option Text × Option (List SectionCheck),
      record.put "sections".toList (.ofValue (.array (report.sections.map checkValue))) draft =
        .ok (draft.1, some report.sections) := by
    intro draft
    have restored := Json.restores_list fun check (_ : check ∈ report.sections) =>
      restores_check check
    exact bind_eq_ok_iff.mpr ⟨_, restored, rfl⟩
  rw [Restores, toValue, Json.Record.decode_ofValue_object .text rfl (by decide),
    foldlM_cons_of_ok (version _), foldlM_cons_of_ok (sections _)]
  rfl

/-- A report has no numbers. -/
theorem numberless_toValue (report : DriftReport) : Numberless report.toValue := by
  -- A status is written as its tag and the texts of its kind.
  have details : ∀ status : SectionStatus, Numberless (.object status.members) := by
    intro status
    exact .cons (.string _) (.object (List.forall_mem_map.mpr fun _ _ => .string _))
  have checks : Numberless (.array (report.sections.map checkValue)) :=
    .array (List.forall_mem_map.mpr fun check _ => .cons (.string _) (details check.status))
  exact .cons (.string _) (.cons checks .nil)

end DriftReport

/-- A manifest that was read, and every rename map and every drift report, is read again from the
line and from the lines that are written of it, with nothing lost: the entries in order, the layout
of each table and the kind and the texts of each status. -/
theorem documents_read_back :
    (∀ text manifest, Manifest.ofText text = .ok manifest →
      Manifest.ofText manifest.toText = .ok manifest ∧
        Manifest.ofText (manifest.toValue.pretty 0) = .ok manifest) ∧
    (∀ map : RenameMap, RenameMap.ofText map.toText = .ok map ∧
      RenameMap.ofText (map.toValue.pretty 0) = .ok map) ∧
    (∀ report : DriftReport, DriftReport.ofText report.toValue.compact = .ok report ∧
      DriftReport.ofText (report.toValue.pretty 0) = .ok report) := by
  refine ⟨?_, ?_, ?_⟩
  · -- Only a manifest that was read tells the layout of each table.
    intro text manifest accepted
    have definite := Manifest.definite_of_ofText accepted
    exact definite.restores.decode_written manifest.numberless_toValue
  · intro map
    exact map.restores.decode_written map.numberless_toValue
  · intro report
    exact report.restores.decode_written report.numberless_toValue

/-- A text of a manifest with a pre-release version, a repeated key, and a scale and a table without
entries. -/
def sampleDocument : Text :=
  "\x7b\"version\": \"1.2.0-rc.1\", \"tables\": \x7b" ++
    "\"spacing\": \x7b\"sm\": \"4px\", \"md\": \"8px\", \"sm\": \"\\u0035px\"\x7d, " ++
    "\"colors\": \x7b\"gray\": \x7b\"500\": \"#777\"\x7d, \"none\": \x7b\x7d\x7d, " ++
    "\"empty\": \x7b\x7d\x7d\x7d"

/-- What the sample text is read as. -/
def sampleTokens : Manifest where
  version := ⟨1, 2, 0, "rc.1", []⟩
  tables := .ofList
    [("spacing", .flat (.ofStrings [("sm", "5px"), ("md", "8px")])),
      ("colors", .scaled (.ofList [("gray", .ofStrings [("500", "#777")]), ("none", .empty)])),
      ("empty", .flat .empty)]
  forbiddenPatterns := []
  rawPalette := .none

/-- The sample manifest keeps its empty scale and its empty table when it is written and read. -/
theorem documents_read_back_sample :
    Manifest.ofText sampleDocument = .ok sampleTokens ∧
      Manifest.ofText sampleTokens.toText = .ok sampleTokens ∧
        Manifest.ofText (sampleTokens.toValue.pretty 0) = .ok sampleTokens := by
  have accepted : Manifest.ofText sampleDocument = .ok sampleTokens := by decide +kernel
  exact ⟨accepted, documents_read_back.1 _ _ accepted⟩

end TokenGuard
