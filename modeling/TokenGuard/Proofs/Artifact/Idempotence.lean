import TokenGuard.Proofs.Artifact.Regeneration

/-! Rendering what was rendered changes nothing, unless a region lies in that of a later section or
a marker comes from a name or a value. -/

namespace TokenGuard

variable {manifest : Manifest} {sections : List Section} {artifact final : Text}
  {rendered : Rendered}

/-- No section encloses an earlier one of another name. -/
def Unnested (sections : List Section) (artifact : Text) : Prop :=
  sections.Pairwise fun s t => s.name ≠ t.name → ¬ Encloses artifact t.name s.name

instance (sections : List Section) (artifact : Text) : Decidable (Unnested sections artifact) :=
  inferInstanceAs (Decidable (sections.Pairwise _))

/-- Sections of a calm text, the last one of each name having its block, are regenerated without
a change. -/
theorem Calm.regenerates {all : List Section} (calm : Calm all final)
    (plain : ∀ s ∈ all, '/' ∉ s.name) (harmless : manifest.Harmless all)
    (within : ∀ s ∈ sections, s ∈ all)
    (settled : ∀ s rest, s :: rest <:+ sections → s.name ∉ rest.map Section.name →
      HasBody final s.name (manifest.blockFor s)) :
    Regenerates manifest final sections final := by
  -- The text stays the same from step to step, so that one property of it serves all sections.
  induction sections with
  | nil => exact .done
  | cons s sections ih =>
    have later : ∀ t ∈ sections, t ∈ all := fun t inRest => within t (by simp [inRest])
    have rest := ih later fun t rest suffix fresh =>
      settled t rest (suffix.trans (List.suffix_cons s sections)) fresh
    have member := within s (by simp)
    by_cases again : s.name ∈ sections.map Section.name
    · -- What the first section changes the later one of its name puts right.
      obtain ⟨body, ⟨region, located, -⟩, -⟩ := calm s member
      have replaced : replaceRegion final s.name (manifest.blockFor s) =
          .ok (region.withBody (manifest.blockFor s)) := replaceRegion_of_locate located
      exact .step replaced (rest.absorb plain harmless later calm (harmless.quiet member) member
        again replaced)
    · -- The last section of its name finds its own block.
      have has := settled s sections (List.suffix_refl _) again
      exact .step has.replaceRegion_self rest

/-- Regenerating sections again changes nothing if the last one of each name has its block. -/
theorem Regenerates.self (plain : ∀ s ∈ sections, '/' ∉ s.name)
    (harmless : manifest.Harmless sections)
    (settled : ∀ s rest, s :: rest <:+ sections → s.name ∉ rest.map Section.name →
      HasBody final s.name (manifest.blockFor s)) :
    Regenerates manifest final sections final := by
  -- Every section is located with the block of the last one of its name.
  have calm : Calm sections final := by
    intro s member
    obtain ⟨last, rest, suffix, named, fresh⟩ :=
      exists_last_of_mem (List.mem_map_of_mem (f := Section.name) member)
    exact ⟨manifest.blockFor last, named ▸ settled last rest suffix fresh,
      harmless.quiet (suffix.subset (by simp))⟩
  exact calm.regenerates plain harmless (fun s member => member) settled

/-- If no name contains a slash and no block contains a marker, rendering a rendered artifact again
either fails or gives the same text and the same summaries, and it does not fail if no section
encloses an earlier one. -/
theorem render_idempotent (plain : ∀ s ∈ sections, '/' ∉ s.name)
    (harmless : manifest.Harmless sections)
    (built : render manifest sections artifact = .ok rendered) :
    (∀ again, render manifest sections rendered.text = .ok again → again = rendered) ∧
      (Unnested sections artifact → render manifest sections rendered.text = .ok rendered) := by
  obtain ⟨served, run, summaries⟩ := render_eq_ok_iff.mp built
  have inside : ∀ s ∈ sections, s ∈ sections := fun s member => member
  constructor
  · intro again rebuilt
    obtain ⟨-, rerun, same⟩ := render_eq_ok_iff.mp rebuilt
    -- No section is lost, since each is found again.
    have self := Regenerates.self plain harmless fun s rest suffix fresh =>
      (run.hasBody_or_lost plain harmless inside suffix fresh).resolve_right fun ⟨_, lost⟩ =>
        lost (rerun.infix_of_mem plain harmless inside (suffix.subset (by simp)))
    obtain ⟨text, list⟩ := again
    obtain ⟨text', list'⟩ := rendered
    simp only at same summaries rerun self
    rw [rerun.unique self, same, summaries]
  · intro unnested
    refine render_eq_ok_iff.mpr ⟨served, ?_, summaries⟩
    refine Regenerates.self plain harmless fun s rest suffix fresh =>
      (run.hasBody_or_lost plain harmless inside suffix fresh).resolve_right ?_
    rintro ⟨⟨t, inRest, encloses⟩, -⟩
    -- The section that encloses an earlier one would be one of another name.
    have ofSuffix := List.pairwise_cons.mp (unnested.sublist suffix.sublist)
    have different : s.name ≠ t.name := fun same => fresh (same ▸ List.mem_map_of_mem inRest)
    exact ofSuffix.1 t inRest different encloses

/-- The sample artifact is rendered, and rendering it again gives the same. -/
theorem render_idempotent_sample :
    Unnested sampleSections sampleArtifact ∧
      ∃ rendered, render sampleManifest sampleSections sampleArtifact = .ok rendered ∧
        render sampleManifest sampleSections rendered.text = .ok rendered := by
  have unnested : Unnested sampleSections sampleArtifact := by decide +kernel
  -- That the artifact is rendered comes from its frame, without evaluating a hash.
  obtain ⟨frame, slots, holds⟩ := arranged_sample.exists_frame
  obtain ⟨rendered, built, -⟩ := holds.render slots arranged_sample.distinct arranged_sample.plain
    require_sample harmless_sample (List.Perm.refl sampleSections)
  exact ⟨unnested, rendered, built,
    (render_idempotent arranged_sample.plain harmless_sample built).2 unnested⟩

/-- A section that lies in the region of the one behind it is lost, so that rendering succeeds
only once. -/
theorem render_fails_of_within {s t : Section} {region q : Region}
    (located : locate artifact s.name = .ok region) (found : locate artifact t.name = .ok q)
    (within : region.Within q) (different : s.name ≠ t.name)
    (plain : ∀ u ∈ [s, t], '/' ∉ u.name) (served : manifest.require [s, t] = .ok ())
    (harmless : manifest.Harmless [s, t]) :
    ∃ rendered, render manifest [s, t] artifact = .ok rendered ∧
      ∀ again, render manifest [s, t] rendered.text ≠ .ok again := by
  obtain ⟨front, back, precedes, encloses⟩ := within
  have quiet : ∀ u ∈ [s, t], Quiet [s, t] (manifest.blockFor u) := fun u => harmless.quiet
  have first := quiet s (by simp)
  have second := quiet t (by simp)
  -- The first section has its block in the region of the second one, which then receives its own.
  have inner := locate_withBody_self located first.insulated (plain s (by simp))
    (first.clean s (by simp))
  have outer := locate_withBody_of_within located first.insulated (plain t (by simp))
    (first.clean t (by simp)) found precedes encloses
  have run := Regenerates.step (replaceRegion_of_locate located)
    (.step (replaceRegion_of_locate outer) .done)
  have lost := not_infix_of_within inner outer (plain s (by simp)) (plain t (by simp)) different
    ⟨front, back, precedes, rfl⟩ second.insulated (second.clean s (by simp))
  refine ⟨⟨_, _⟩, render_eq_ok_iff.mpr ⟨served, run, rfl⟩, fun again rebuilt => lost ?_⟩
  obtain ⟨-, rerun, -⟩ := render_eq_ok_iff.mp rebuilt
  exact rerun.infix_of_mem plain harmless (fun u member => member) (by simp)

/-- A section whose block brings its start marker again, alone or with the end marker behind it,
is not located any more, so that rendering succeeds only once. -/
theorem render_fails_of_again {s : Section} {region : Region}
    (located : locate artifact s.name = .ok region) (served : manifest.require [s] = .ok ())
    (brings : marker s.name .start <:+: manifest.blockFor s ++ region.after) :
    ∃ rendered, render manifest [s] artifact = .ok rendered ∧
      ∀ again, render manifest [s] rendered.text ≠ .ok again := by
  -- The first run puts in the block, and with it a second start marker.
  have run : Regenerates manifest artifact [s] (region.withBody (manifest.blockFor s)) :=
    .step (replaceRegion_of_locate located) .done
  refine ⟨⟨_, _⟩, render_eq_ok_iff.mpr ⟨served, run, rfl⟩, fun again rebuilt => ?_⟩
  obtain ⟨-, rerun, -⟩ := render_eq_ok_iff.mp rebuilt
  -- A second run would have to locate the section again.
  cases rerun with
  | step replaced rest =>
    obtain ⟨q, found, -⟩ := replaceRegion_eq_ok_iff.mp replaced
    exact locate_withBody_ne_ok located brings found

/-- An artifact in which the second sample section encloses the first one. -/
def nestedArtifact : Text :=
  "/* NX:COLORS:START *//* NX:SPACING:START *//* NX:SPACING:END *//* NX:COLORS:END */"

/-- Rendering is not idempotent if a section encloses an earlier one, which it loses. -/
theorem not_idempotent_of_nested :
    ¬ ∀ (manifest : Manifest) (sections : List Section) (artifact : Text) (rendered : Rendered),
      (∀ s ∈ sections, '/' ∉ s.name) → manifest.Harmless sections →
      render manifest sections artifact = .ok rendered →
      render manifest sections rendered.text = .ok rendered := by
  intro all
  -- The region of the one section lies in that of the other, which is replaced later.
  have located : locate nestedArtifact "SPACING" = .ok ⟨"/* NX:COLORS:START *//* NX:SPACING:START */",
      [], "/* NX:SPACING:END *//* NX:COLORS:END */"⟩ := by decide +kernel
  have found : locate nestedArtifact "COLORS" = .ok ⟨"/* NX:COLORS:START */",
      "/* NX:SPACING:START *//* NX:SPACING:END */", "/* NX:COLORS:END */"⟩ := by decide +kernel
  obtain ⟨rendered, built, fails⟩ : ∃ rendered,
      render sampleManifest sampleSections nestedArtifact = .ok rendered ∧
        ∀ again, render sampleManifest sampleSections rendered.text ≠ .ok again :=
    render_fails_of_within located found
      ⟨"/* NX:SPACING:START */", "/* NX:SPACING:END */", by decide +kernel, by decide +kernel⟩
      (by decide +kernel) arranged_sample.plain require_sample harmless_sample
  exact fails _ (all _ _ _ _ arranged_sample.plain harmless_sample built)

/-- The section of the first sample table. -/
def spacingSection : Section := .ofFlat "SPACING" "--nx-space-"

/-- A manifest with a table of one value. -/
def manifestOf (value : String) : Manifest :=
  { sampleManifest with
    tables := .ofList [("SPACING".toList, .flat (.ofStrings [("4", value)]))] }

/-- The only token line that the section receives if the value is its start marker. -/
theorem lines_spacing : ((manifestOf "/* NX:SPACING:START */").shown spacingSection).lines
    spacingSection.lead = ["--nx-space-4: /* NX:SPACING:START */;".toList] := by decide +kernel

/-- Rendering is not idempotent if a value brings a marker, which occurs twice from then on. -/
theorem not_idempotent_of_value :
    ¬ ∀ (manifest : Manifest) (sections : List Section) (artifact : Text) (rendered : Rendered),
      (∀ s ∈ sections, '/' ∉ s.name) → Unnested sections artifact →
      render manifest sections artifact = .ok rendered →
      render manifest sections rendered.text = .ok rendered := by
  intro all
  have located : locate "/* NX:SPACING:START *//* NX:SPACING:END */" spacingSection.name =
      .ok ⟨"/* NX:SPACING:START */", [], "/* NX:SPACING:END */"⟩ := by decide +kernel
  -- The value of a token stands in the block as it is.
  have inBlock : marker spacingSection.name .start <:+:
      (manifestOf "/* NX:SPACING:START */").blockFor spacingSection :=
    (infix_formatBlock_iff (by decide +kernel) (by decide +kernel)
      (TokenTable.isRecordable_fingerprint _)).mpr
        ⟨_, by rw [lines_spacing]; exact List.mem_singleton_self _, by decide +kernel⟩
  obtain ⟨rendered, built, fails⟩ := render_fails_of_again located (by decide +kernel)
    (inBlock.trans (List.prefix_append _ _).isInfix)
  exact fails _ (all _ _ _ _ (by decide +kernel) (by decide +kernel) built)

/-- A section whose start marker is made up of the end of a block and the end marker behind it. -/
def spanningSection : Section :=
  { spacingSection with name := "A:START */;\n  /* NX:A" }

/-- The only token line of the section whose start marker is made up in this way. -/
theorem lines_spanning : ((manifestOf "/* NX:A:START */").shown spanningSection).lines
    spanningSection.lead = ["--nx-space-4: /* NX:A:START */;".toList] := by decide +kernel

/-- The block of that section alone contains none of its markers. -/
theorem harmless_spanning : (manifestOf "/* NX:A:START */").Harmless [spanningSection] := by
  intro s member t member' kind piece
  obtain rfl := List.mem_singleton.mp member
  obtain rfl := List.mem_singleton.mp member'
  -- Either marker has more behind a semicolon than the block.
  have inMarker : ';' :: "\n  /* NX:A".toList <:+: marker spanningSection.name kind := by
    cases kind <;> decide +kernel
  have within := inMarker.trans piece
  rw [Manifest.blockFor, sectionBlock, lines_spanning] at within
  exact not_infix_formatBlock_of_late (TokenTable.isRecordable_fingerprint _)
    "--nx-space-4: /* NX:A:START */" (by decide) (by decide) within

/-- Rendering is not idempotent if a name with a slash makes a marker reach across a block's end. -/
theorem not_idempotent_of_slash :
    ¬ ∀ (manifest : Manifest) (sections : List Section) (artifact : Text) (rendered : Rendered),
      manifest.Harmless sections → Unnested sections artifact →
      render manifest sections artifact = .ok rendered →
      render manifest sections rendered.text = .ok rendered := by
  intro all
  have located : locate (marker spanningSection.name .start ++ marker spanningSection.name .stop)
      spanningSection.name = .ok ⟨marker spanningSection.name .start, [],
        marker spanningSection.name .stop⟩ := by decide +kernel
  -- The value at the block's end opens the marker, and the end marker of the region closes it.
  have ending : "--nx-space-4: /* NX:A:START */;".toList ++ ['\n'] ++ indent <:+
      (manifestOf "/* NX:A:START */").blockFor spanningSection := by
    rw [Manifest.blockFor, sectionBlock, lines_spanning]
    exact suffix_formatBlock _ [] _
  have across : marker spanningSection.name .start <:+:
      "--nx-space-4: /* NX:A:START */;".toList ++ ['\n'] ++ indent ++
        marker spanningSection.name .stop := by decide +kernel
  have brings : marker spanningSection.name .start <:+:
      (manifestOf "/* NX:A:START */").blockFor spanningSection ++
        marker spanningSection.name .stop := by
    -- The end of the block and what follows it are a piece of the whole.
    obtain ⟨front, divided⟩ := ending
    rw [← divided, List.append_assoc]
    exact across.trans (List.suffix_append front _).isInfix
  obtain ⟨rendered, built, fails⟩ := render_fails_of_again located (by decide +kernel) brings
  exact fails _ (all _ _ _ _ harmless_spanning (by decide +kernel) built)

end TokenGuard
