import TokenGuard.Proofs.Artifact.Arrangement
import TokenGuard.Proofs.Marker.Block
import TokenGuard.Render

/-! Rendering fills every slot of an artifact's frame with the block of its section, and changes
nothing else. -/

namespace TokenGuard

variable {manifest : Manifest} {artifact : Text} {sections order : List Section} {s : Section}

/-- The fingerprint of a table can be recorded. -/
theorem TokenTable.isRecordable_fingerprint (table : TokenTable) :
    IsRecordable table.fingerprint :=
  TokenGuard.isRecordable_fingerprint _

namespace Manifest

/-- The table that a section shows, which is empty if the manifest has none. -/
def shown (manifest : Manifest) (s : Section) : TokenTable :=
  (manifest.tables.get? s.table).getD (.flat .empty)

/-- The block that a section receives. -/
def blockFor (manifest : Manifest) (s : Section) : Text := sectionBlock s (manifest.shown s)

/-- No block that a section receives contains a marker of one of the sections. -/
def Harmless (manifest : Manifest) (sections : List Section) : Prop :=
  ∀ s ∈ sections, ∀ t ∈ sections, ∀ kind, ¬ marker t.name kind <:+: manifest.blockFor s

/-- No token line of a section contains a marker of one of the sections. -/
def HarmlessLines (manifest : Manifest) (sections : List Section) : Prop :=
  ∀ s ∈ sections, ∀ t ∈ sections, ∀ kind, ∀ token ∈ (manifest.shown s).lines s.lead,
    ¬ marker t.name kind <:+: token

instance (manifest : Manifest) (sections : List Section) :
    Decidable (manifest.HarmlessLines sections) :=
  -- Occurrence is searched for, first of the one marker and then of the other.
  decidable_of_iff (∀ s ∈ sections, ∀ t ∈ sections, ∀ kind ∈ [MarkerKind.start, .stop],
    ∀ token ∈ (manifest.shown s).lines s.lead,
      ¬ Text.occursIn (marker t.name kind) token = true) <| by
    have both : ∀ kind, kind ∈ [MarkerKind.start, .stop] := fun kind => by cases kind <;> simp
    simp only [HarmlessLines, Text.occursIn_iff, both, true_imp_iff]

/-- For names of one line without a slash, only token lines could bring a marker. -/
theorem harmless_iff_lines (plain : ∀ s ∈ sections, '/' ∉ s.name)
    (single : ∀ s ∈ sections, '\n' ∉ s.name) :
    manifest.Harmless sections ↔ manifest.HarmlessLines sections := by
  -- A marker lies in a block exactly if it lies in one of its token lines.
  refine forall₂_congr fun s _ => forall₂_congr fun t member => forall_congr' fun kind => ?_
  have inBlock : marker t.name kind <:+: manifest.blockFor s ↔
      ∃ token ∈ (manifest.shown s).lines s.lead, marker t.name kind <:+: token :=
    infix_formatBlock_iff (plain t member) (single t member)
      (manifest.shown s).isRecordable_fingerprint
  simp [inBlock]

/-- A section finds its table and layout exactly if the table exists and fits. -/
theorem requireOne_eq_ok_iff :
    manifest.requireOne s = .ok () ↔
      ∃ table, manifest.tables.get? s.table = some table ∧ table.fits s.layout = true := by
  -- The check fails on a missing table, and on one of the wrong layout.
  unfold requireOne tableFor
  cases manifest.tables.get? s.table with
  | none => simp [Bind.bind, Except.bind]
  | some table =>
    by_cases fits : table.fits s.layout = true <;>
      simp [fits, Bind.bind, Except.bind, Pure.pure, Except.pure, throw, throwThe,
        MonadExceptOf.throw]

/-- A manifest serves sections exactly if it serves each of them. -/
theorem require_eq_ok_iff :
    manifest.require sections = .ok () ↔ ∀ s ∈ sections, manifest.requireOne s = .ok () := by
  -- The check stops at the first section that is not served.
  unfold require
  induction sections with
  | nil => simp [Pure.pure, Except.pure]
  | cons s sections ih =>
    cases first : manifest.requireOne s with
    | error cause => simp [List.forM, first, Bind.bind, Except.bind]
    | ok done => simpa [List.forM, first, Bind.bind, Except.bind] using ih

/-- A manifest serves sections in any order. -/
theorem require_perm (perm : order.Perm sections) (served : manifest.require sections = .ok ()) :
    manifest.require order = .ok () := by
  rw [require_eq_ok_iff] at served ⊢
  exact fun s member => served s (perm.mem_iff.mp member)

/-- Every section that is served finds its table. -/
theorem sectionTable_of_require (served : manifest.require sections = .ok ())
    (member : s ∈ sections) : sectionTable manifest s = .ok (manifest.shown s) := by
  -- Serving a section includes finding its table, whatever the layout.
  obtain ⟨table, found, -⟩ := requireOne_eq_ok_iff.mp (require_eq_ok_iff.mp served s member)
  simp [sectionTable, tableFor, shown, found, Except.mapError]

end Manifest

/-- A generated block forms no marker with the markers around it. -/
theorem insulated_formatBlock (hash : Text) (tokens : List Text) :
    Insulated (formatBlock hash tokens) := by
  -- A line feed opens the block, and the indent of the end marker closes it.
  have indented : indent = [' '] ++ [' '] := rfl
  refine ⟨by simp [formatBlock], by simp [formatBlock], ?_⟩
  rw [formatBlock, indented, ← List.append_assoc, List.getLast?_concat]
  decide

/-- What a section receives forms no marker with the markers around it. -/
theorem insulated_blockFor (manifest : Manifest) (s : Section) : Insulated (manifest.blockFor s) :=
  insulated_formatBlock _ _

namespace Frame

variable {frame : Frame} {body : Section → Text}

/-- Rendering sections of a frame in order gives each of them its block. -/
theorem Holds.renderSections (holds : frame.Holds body artifact)
    (distinct : (frame.sections.map Section.name).Nodup)
    (plain : ∀ t ∈ frame.sections, '/' ∉ t.name) (harmless : manifest.Harmless frame.sections)
    (inside : ∀ s ∈ order, s ∈ frame.sections)
    (served : ∀ s ∈ order, sectionTable manifest s = .ok (manifest.shown s)) :
    ∃ rendered, TokenGuard.renderSections manifest artifact order = .ok rendered ∧
      rendered.sections = order.map (fun s => summarize s (manifest.shown s)) ∧
      frame.Holds (fun s => if s ∈ order then manifest.blockFor s else body s) rendered.text := by
  -- Each step fills one slot anew and leaves a frame that the next step finds.
  induction order generalizing artifact body with
  | nil => exact ⟨⟨artifact, []⟩, rfl, rfl, by simpa using holds⟩
  | cons s order ih =>
    have member := inside s (by simp)
    obtain ⟨replaced, holds⟩ := holds.replace distinct plain member
      (insulated_blockFor manifest s) (harmless s member)
    obtain ⟨rendered, rest, summaries, holds⟩ := ih holds
      (fun t later => inside t (by simp [later])) (fun t later => served t (by simp [later]))
    have table := served s (by simp)
    refine ⟨{ rendered with sections := summarize s (manifest.shown s) :: rendered.sections },
      ?_, by simp [summaries], ?_⟩
    · -- The text and the summaries come out in one step.
      have block : sectionBlock s (manifest.shown s) = manifest.blockFor s := rfl
      simp [TokenGuard.renderSections, table, block, replaced, rest, Except.mapError,
        Bind.bind, Except.bind, Pure.pure, Except.pure]
    · -- A later section has its block whether or not this one is the same section.
      have bodies : (fun t => if t ∈ order then manifest.blockFor t
            else Function.update body s (manifest.blockFor s) t) =
          fun t => if t ∈ s :: order then manifest.blockFor t else body t := by
        funext t
        by_cases same : t = s <;> by_cases later : t ∈ order <;> simp [same, later]
      exact bodies ▸ holds

/-- Rendering all sections of a frame, in any order, gives all of them their blocks. -/
theorem Holds.render (holds : frame.Holds body artifact) (slots : frame.sections.Perm sections)
    (distinct : (sections.map Section.name).Nodup) (plain : ∀ s ∈ sections, '/' ∉ s.name)
    (served : manifest.require sections = .ok ()) (harmless : manifest.Harmless sections)
    (perm : order.Perm sections) :
    ∃ rendered, TokenGuard.render manifest order artifact = .ok rendered ∧
      rendered.sections = order.map (fun s => summarize s (manifest.shown s)) ∧
      frame.Holds manifest.blockFor rendered.text := by
  -- Frames and orders are about the same sections, only listed differently.
  have within : ∀ s, s ∈ frame.sections ↔ s ∈ order := fun s => (slots.trans perm.symm).mem_iff
  -- The order of rendering is one of the sections in the slots, and of those that are served.
  have served := Manifest.require_perm perm served
  obtain ⟨rendered, built, summaries, filled⟩ := holds.renderSections
    ((slots.map Section.name).nodup_iff.mpr distinct)
    (fun s member => plain s (slots.mem_iff.mp member))
    (fun s first t second => harmless s (slots.mem_iff.mp first) t (slots.mem_iff.mp second))
    (fun s member => (within s).mpr member)
    (fun s member => Manifest.sectionTable_of_require served member)
  refine ⟨rendered, ?_, summaries, filled.congr fun s member => by simp [(within s).mp member]⟩
  simp [TokenGuard.render, served, built, Except.mapError, Bind.bind, Except.bind]

end Frame

/-- A manifest with a table of each layout. -/
def sampleManifest : Manifest where
  version := ⟨1, 0, 0, [], []⟩
  tables := .ofList [("SPACING".toList, .flat (.ofStrings [("4", "1rem")])),
    ("COLORS".toList, .scaled (.ofList [("red".toList, .ofStrings [("500", "#f00")])]))]
  forbiddenPatterns := []
  rawPalette := .none

/-- A section for each of the tables. -/
def sampleSections : List Section := [.ofFlat "SPACING" "--nx-space-", .ofScaled "COLORS" "--nx-"]

/-- An artifact with the regions of both sections side by side, the later section first. -/
def sampleArtifact : Text :=
  "/* NX:COLORS:START */ old /* NX:COLORS:END *//* NX:SPACING:START *//* NX:SPACING:END */ rest"

/-- The sample sections lie apart in the sample artifact. -/
theorem arranged_sample : Arranged sampleSections sampleArtifact where
  distinct := by decide +kernel
  plain := by decide +kernel
  located := by
    -- Whether a section is located can be evaluated, where it is located cannot be decided.
    have found : ∀ s ∈ sampleSections, (locate sampleArtifact s.name).toOption.isSome := by
      decide +kernel
    intro s member
    cases outcome : locate sampleArtifact s.name with
    | ok region => exact ⟨region, rfl⟩
    | error cause => simpa [outcome, Except.toOption] using found s member
  apart := by decide +kernel

/-- The blocks of the sample manifest contain no marker of a sample section. -/
theorem harmless_sample : sampleManifest.Harmless sampleSections :=
  (Manifest.harmless_iff_lines arranged_sample.plain (by decide +kernel)).mpr (by decide +kernel)

/-- The sample manifest has the tables of the sample sections. -/
theorem require_sample : sampleManifest.require sampleSections = .ok () := by decide +kernel

end TokenGuard
