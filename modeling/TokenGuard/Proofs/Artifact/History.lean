import TokenGuard.Proofs.Artifact.Rendering

/-! An artifact that is rendered time and again shows the last manifest only. -/

namespace TokenGuard

/-- Render an artifact for each manifest in turn, each time what the one before left. -/
def renderInTurn (sections : List Section) (artifact : Text) :
    List Manifest → Except SectionError Text
  | [] => .ok artifact
  | manifest :: manifests => do
    let rendered ← render manifest sections artifact
    renderInTurn sections rendered.text manifests

variable {artifact : Text} {sections : List Section} {earlier : List Manifest} {last : Manifest}

namespace Frame

variable {frame : Frame} {body : Section → Text}

/-- Whatever bodies a frame holds, rendering it for manifests in turn leaves the blocks of the
last one. -/
theorem Holds.renderInTurn (holds : frame.Holds body artifact)
    (slots : frame.sections.Perm sections) (distinct : (sections.map Section.name).Nodup)
    (plain : ∀ s ∈ sections, '/' ∉ s.name)
    (served : ∀ manifest ∈ earlier ++ [last], manifest.require sections = .ok ())
    (harmless : ∀ manifest ∈ earlier ++ [last], manifest.Harmless sections) :
    TokenGuard.renderInTurn sections artifact (earlier ++ [last]) =
      .ok (frame.fill last.blockFor) := by
  -- Every manifest leaves a frame with its own blocks, which the next one finds.
  induction earlier generalizing artifact body with
  | nil =>
    -- The last manifest leaves its own blocks.
    obtain ⟨rendered, built, -, filled⟩ := holds.render slots distinct plain
      (served last (by simp)) (harmless last (by simp)) (List.Perm.refl sections)
    simp [TokenGuard.renderInTurn, built, filled.text, Bind.bind, Except.bind]
  | cons manifest earlier ih =>
    obtain ⟨rendered, built, -, filled⟩ := holds.render slots distinct plain
      (served manifest (by simp)) (harmless manifest (by simp)) (List.Perm.refl sections)
    -- The frame is the same for all that follow, and only the bodies are others.
    have rest := ih filled (fun later member => served later (List.mem_cons_of_mem _ member))
      (fun later member => harmless later (List.mem_cons_of_mem _ member))
    simpa [TokenGuard.renderInTurn, built, Bind.bind, Except.bind] using rest

end Frame

/-- Rendering for manifests in turn succeeds each time, and leaves what rendering once for the last
one leaves. -/
theorem renderInTurn_forgets (arranged : Arranged sections artifact)
    (served : ∀ manifest ∈ earlier ++ [last], manifest.require sections = .ok ())
    (harmless : ∀ manifest ∈ earlier ++ [last], manifest.Harmless sections) :
    ∃ rendered, render last sections artifact = .ok rendered ∧
      renderInTurn sections artifact (earlier ++ [last]) = .ok rendered.text := by
  -- Both ways fill the same frame with the blocks of the last manifest.
  obtain ⟨frame, slots, holds⟩ := arranged.exists_frame
  obtain ⟨rendered, built, -, filled⟩ := holds.render slots arranged.distinct arranged.plain
    (served last (by simp)) (harmless last (by simp)) (List.Perm.refl sections)
  refine ⟨rendered, built, ?_⟩
  rw [filled.text]
  exact holds.renderInTurn slots arranged.distinct arranged.plain served harmless

/-- The sample manifest with a longer value, which brings a hash comment of its own. -/
def sampleGrowth : Manifest :=
  { sampleManifest with
    tables := sampleManifest.tables.insert "SPACING"
      (.flat (.ofStrings [("4", "clamp(1rem, 2vw, 2rem); /* HASH: sha256-0123456789ab */")])) }

/-- What the longer value left in the sample artifact is gone behind the next rendering. -/
theorem renderInTurn_forgets_sample :
    (∀ manifest ∈ [sampleGrowth] ++ [sampleManifest],
        manifest.require sampleSections = .ok ()) ∧
      (∀ manifest ∈ [sampleGrowth] ++ [sampleManifest], manifest.Harmless sampleSections) ∧
      ∃ rendered, render sampleManifest sampleSections sampleArtifact = .ok rendered ∧
        renderInTurn sampleSections sampleArtifact ([sampleGrowth] ++ [sampleManifest]) =
          .ok rendered.text := by
  have served : ∀ manifest ∈ [sampleGrowth] ++ [sampleManifest],
      manifest.require sampleSections = .ok () := by decide +kernel
  -- Whether the blocks are harmless is read off their lines.
  have lines : ∀ manifest ∈ [sampleGrowth] ++ [sampleManifest],
      manifest.HarmlessLines sampleSections := by decide +kernel
  have harmless : ∀ manifest ∈ [sampleGrowth] ++ [sampleManifest],
      manifest.Harmless sampleSections := fun manifest member =>
    (Manifest.harmless_iff_lines arranged_sample.plain (by decide +kernel)).mpr
      (lines manifest member)
  exact ⟨served, harmless, renderInTurn_forgets arranged_sample served harmless⟩

end TokenGuard
