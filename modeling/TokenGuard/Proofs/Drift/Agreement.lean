import TokenGuard.Drift
import TokenGuard.Proofs.Artifact.Rendering
import TokenGuard.Proofs.Drift.Recorded

/-! A rendered artifact is found to be in order or drifted, never broken. -/

namespace TokenGuard

variable {manifest latest : Manifest} {artifact : Text} {sections : List Section} {s : Section}

/-- Checks that all succeed give the list of their results. -/
theorem mapM_eq_ok {α β ε : Type} {check : α → Except ε β} {result : α → β} {items : List α}
    (each : ∀ item ∈ items, check item = .ok (result item)) :
    items.mapM check = .ok (items.map result) := by
  -- Neither the first check nor one of the others stops the run.
  induction items with
  | nil => rfl
  | cons item items ih =>
    have rest := ih fun other member => each other (by simp [member])
    simp [List.mapM_cons, each item (by simp), rest, Bind.bind, Except.bind, Pure.pure, Except.pure]

/-- The block of a section records the fingerprint of its table. -/
theorem extractHash_blockFor (manifest : Manifest) (s : Section) :
    extractHash (manifest.blockFor s) = some (manifest.shown s).fingerprint :=
  extractHash_formatBlock (manifest.shown s).isRecordable_fingerprint _

/-- The status of a section that was rendered for one table and is checked against another. -/
def statusAfter (rendered expected : TokenTable) : SectionStatus :=
  if rendered.fingerprint = expected.fingerprint then .ok expected.fingerprint
  else .drift expected.fingerprint rendered.fingerprint

/-- A body that is a generated block is compared by the fingerprint of its table. -/
theorem compareHash_blockFor (manifest latest : Manifest) (s : Section) :
    compareHash (latest.shown s).fingerprint (manifest.blockFor s) =
      statusAfter (manifest.shown s) (latest.shown s) := by
  -- The recorded hash is that of the table that was rendered.
  rw [compareHash, extractHash_blockFor, statusAfter]
  by_cases same : (manifest.shown s).fingerprint = (latest.shown s).fingerprint <;> simp [same]

/-- A section that exists in a manifest and in the artifact is compared by its body. -/
theorem checkSection_of_locate {region : Region} (table : (latest.tables.get? s.table).isSome)
    (located : locate artifact s.name = .ok region) :
    checkSection latest artifact s =
      .ok ⟨s.name, compareHash (latest.shown s).fingerprint region.body⟩ := by
  -- Neither the look-up nor the search for the markers fails.
  obtain ⟨table, found⟩ := Option.isSome_iff_exists.mp table
  simp [checkSection, sectionTable, Manifest.tableFor, Manifest.shown, found, located,
    Except.mapError, Bind.bind, Except.bind, Pure.pure, Except.pure]

/-- Checking what was rendered compares the two fingerprints of each section, in order. -/
theorem validate_rendered (arranged : Arranged sections artifact)
    (served : manifest.require sections = .ok ()) (harmless : manifest.Harmless sections)
    (tables : ∀ s ∈ sections, (latest.tables.get? s.table).isSome) :
    ∃ rendered, render manifest sections artifact = .ok rendered ∧
      validate latest sections rendered.text =
        .ok ⟨latest.version.toText,
          sections.map fun s => ⟨s.name, statusAfter (manifest.shown s) (latest.shown s)⟩⟩ := by
  obtain ⟨frame, slots, holds⟩ := arranged.exists_frame
  obtain ⟨rendered, built, -, filled⟩ :=
    holds.render slots arranged.distinct arranged.plain served harmless (List.Perm.refl sections)
  refine ⟨rendered, built, ?_⟩
  -- Every section is located with its block, whose recorded hash decides the status.
  have checks : ∀ s ∈ sections, checkSection latest rendered.text s =
      .ok ⟨s.name, statusAfter (manifest.shown s) (latest.shown s)⟩ := by
    intro s member
    obtain ⟨region, located, body⟩ := filled.locate_body (slots.mem_iff.mpr member)
    rw [checkSection_of_locate (tables s member) located, body, compareHash_blockFor]
  simp [validate, mapM_eq_ok checks, Bind.bind, Except.bind, Pure.pure, Except.pure]

/-- A later manifest in which one of the two sample tables has changed. -/
def sampleUpdate : Manifest :=
  { sampleManifest with
    tables := sampleManifest.tables.insert "SPACING" (.flat (.ofStrings [("4", "2rem")])) }

/-- The sample artifact is rendered for one manifest and checked against a later one. -/
theorem validate_rendered_sample :
    (∀ s ∈ sampleSections, (sampleUpdate.tables.get? s.table).isSome) ∧
      ∃ rendered, render sampleManifest sampleSections sampleArtifact = .ok rendered ∧
        validate sampleUpdate sampleSections rendered.text =
          .ok ⟨sampleUpdate.version.toText, sampleSections.map fun s =>
            ⟨s.name, statusAfter (sampleManifest.shown s) (sampleUpdate.shown s)⟩⟩ := by
  have tables : ∀ s ∈ sampleSections, (sampleUpdate.tables.get? s.table).isSome := by
    decide +kernel
  exact ⟨tables, validate_rendered arranged_sample require_sample harmless_sample tables⟩

end TokenGuard
