import TokenGuard.Block
import TokenGuard.Manifest
import TokenGuard.Marker

/-! Rendering: every region of an artifact receives the block of its section's table. -/

namespace TokenGuard

/-- What rendering did for one section. -/
structure SectionSummary where
  /-- The section's name. -/
  name : Text
  /-- The number of token lines. -/
  tokens : Nat
  /-- The fingerprint of the table. -/
  hash : Text
  deriving DecidableEq

/-- A rendered artifact. -/
structure Rendered where
  /-- The artifact with all regions rewritten. -/
  text : Text
  /-- One summary for each section, in order. -/
  sections : List SectionSummary
  deriving DecidableEq

/-- Why an artifact cannot be rendered or checked. -/
inductive SectionError
  /-- The manifest does not serve the sections. -/
  | manifest (cause : ManifestMismatch)
  /-- The markers of a section are unusable. -/
  | marker (name : Text) (cause : MarkerError)
  deriving DecidableEq

/-- The wording of an error. -/
def SectionError.message : SectionError → Text
  | manifest cause => cause.message
  | marker name cause => "Section " ++ name ++ ": " ++ cause.message

/-- The table of a section, a missing one being an error. -/
def sectionTable (manifest : Manifest) (s : Section) : Except SectionError TokenTable :=
  (manifest.tableFor s).mapError .manifest

/-- The block that a section receives for its table. -/
def sectionBlock (s : Section) (table : TokenTable) : Text :=
  formatBlock table.fingerprint (table.lines s.lead)

/-- The summary of a section for its table. -/
def summarize (s : Section) (table : TokenTable) : SectionSummary :=
  ⟨s.name, (table.lines s.lead).length, table.fingerprint⟩

/-- Regenerate the regions of the sections in order, each in the text that the ones before left. -/
def renderSections (manifest : Manifest) (text : Text) : List Section → Except SectionError Rendered
  | [] => .ok ⟨text, []⟩
  | s :: sections => do
    let table ← sectionTable manifest s
    let text ← (replaceRegion text s.name (sectionBlock s table)).mapError (.marker s.name)
    let rendered ← renderSections manifest text sections
    return { rendered with sections := summarize s table :: rendered.sections }

/-- Render an artifact, once the manifest is known to serve all sections. -/
def render (manifest : Manifest) (sections : List Section) (artifact : Text) :
    Except SectionError Rendered := do
  (manifest.require sections).mapError .manifest
  renderSections manifest artifact sections

end TokenGuard
