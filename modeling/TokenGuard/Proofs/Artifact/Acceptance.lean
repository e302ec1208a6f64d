import TokenGuard.Proofs.Artifact.Idempotence
import TokenGuard.Proofs.Drift.Agreement
import TokenGuard.Proofs.Marker.Enclosed

/-! Rendering accepts an artifact exactly if all sections are located in it, unless a section
encloses a later one: such a section is never rendered if it is located, and it may be rendered if
it is not. -/

namespace TokenGuard

variable {manifest : Manifest} {sections all : List Section} {s t u : Section}
  {artifact text next final name new : Text}

/-- Every section is located. -/
def AllLocated (sections : List Section) (artifact : Text) : Prop :=
  ∀ s ∈ sections, ∃ region, locate artifact s.name = .ok region

instance (sections : List Section) (artifact : Text) : Decidable (AllLocated sections artifact) :=
  -- Whether a section is located can be evaluated, though not where.
  decidable_of_iff (∀ s ∈ sections, (locate artifact s.name).isOk = true) <| by
    refine forall₂_congr fun s _ => ?_
    cases locate artifact s.name <;> simp [Except.isOk, Except.toBool]

/-- No section encloses a later one. -/
def Exposed (sections : List Section) (artifact : Text) : Prop :=
  sections.Pairwise fun s t => ¬ Encloses artifact s.name t.name

instance (sections : List Section) (artifact : Text) : Decidable (Exposed sections artifact) :=
  inferInstanceAs (Decidable (sections.Pairwise _))

section Step

variable (plain : ∀ s ∈ all, '/' ∉ s.name) (quiet : Quiet all new)
  (replaced : replaceRegion text s.name new = .ok next) (first : s ∈ all) (second : t ∈ all)
  (different : s.name ≠ t.name)

include plain quiet replaced first second different

/-- A section that is not enclosed by the one whose body is replaced is located before exactly if
it is located behind. -/
theorem locates_replaceRegion_iff (free : ¬ Encloses text s.name t.name) :
    (∃ region, locate next t.name = .ok region) ↔ ∃ region, locate text t.name = .ok region := by
  obtain ⟨region, located, rfl⟩ := replaceRegion_eq_ok_iff.mp replaced
  have whole : region.before ++ region.body ++ region.after = text := withBody_of_locate located
  -- Its markers lie outside both bodies.
  have outside := outside_of_locate located quiet.insulated (plain t second) (quiet.clean t second)
  have outside' := outside_of_not_encloses located (plain s first) (plain t second) different free
  constructor
  · intro ⟨q, found⟩
    rw [← whole]
    exact exists_locate_of_outside outside outside' found
  · intro ⟨q, found⟩
    rw [← whole] at found
    exact exists_locate_of_outside outside' outside found

omit quiet in
/-- Sections that are not enclosed by the one whose body is replaced enclose each other behind if
they did so before. -/
theorem encloses_replaceRegion (third : u ∈ all) (different' : s.name ≠ u.name)
    (free : ¬ Encloses text s.name t.name) (free' : ¬ Encloses text s.name u.name)
    (encloses : Encloses text t.name u.name) : Encloses next t.name u.name := by
  obtain ⟨region, located, rfl⟩ := replaceRegion_eq_ok_iff.mp replaced
  rw [← withBody_of_locate located] at encloses
  -- All their markers lie outside the old body.
  exact encloses_of_outside new
    (outside_of_not_encloses located (plain s first) (plain t second) different free)
    (outside_of_not_encloses located (plain s first) (plain u third) different' free') encloses

/-- A located section that is enclosed by the one whose body is replaced is lost. -/
theorem lost_of_encloses {q : Region} (found : locate text t.name = .ok q)
    (encloses : Encloses text s.name t.name) : ∃ kind, ¬ marker t.name kind <:+: next := by
  obtain ⟨region, located, rfl⟩ := replaceRegion_eq_ok_iff.mp replaced
  exact exists_not_infix_of_encloses located found (plain s first) (plain t second) different
    quiet.insulated (quiet.clean t second) encloses

end Step

section Run

variable (plain : ∀ s ∈ all, '/' ∉ s.name) (harmless : manifest.Harmless all)
  (within : ∀ s ∈ sections, s ∈ all) (distinct : (sections.map Section.name).Nodup)

include plain harmless within distinct

/-- A section of a run that no earlier one encloses is located at first. -/
theorem Regenerates.locates {front back : List Section}
    (run : Regenerates manifest text sections final) (divided : sections = front ++ t :: back)
    (free : ∀ s ∈ front, ¬ Encloses text s.name t.name) :
    ∃ region, locate text t.name = .ok region := by
  -- By induction on the run: the sections in front of this one are replaced one by one.
  induction run generalizing front with
  | done => simp at divided
  | @step s sections text next final replaced rest ih =>
    cases front with
    | nil =>
      -- The section itself comes first, and is located for that.
      obtain ⟨rfl, rfl⟩ := List.cons.inj divided
      obtain ⟨region, located, -⟩ := replaceRegion_eq_ok_iff.mp replaced
      exact ⟨region, located⟩
    | cons s' front =>
      obtain ⟨rfl, rfl⟩ := List.cons.inj divided
      have ofFirst := within s (by simp)
      have ofBlock := harmless.quiet ofFirst
      have ofSection : t ∈ all := within t (by simp)
      rw [List.map_cons, List.nodup_cons] at distinct
      have different : s.name ≠ t.name := by
        intro same
        apply distinct.1
        simp [same]
      -- It is located behind the first replacement, which does not touch its markers.
      have later := ih (fun u inRest => within u (List.mem_cons_of_mem s inRest)) distinct.2 rfl
        (fun u inFront => not_encloses_of_replaceRegion plain ofBlock
          (within u (by simp [inFront])) ofSection replaced (free u (by simp [inFront])))
      exact (locates_replaceRegion_iff plain ofBlock replaced ofFirst ofSection different
        (free s (by simp))).mp later

/-- Sections that are located and do not enclose later ones are regenerated. -/
theorem AllLocated.regenerates (located : AllLocated sections text)
    (exposed : Exposed sections text) : ∃ final, Regenerates manifest text sections final := by
  -- The text changes with every step, so that what is known of the sections is carried over to it.
  induction sections generalizing text with
  | nil => exact ⟨text, .done⟩
  | cons s sections ih =>
    have member := within s (by simp)
    have ofBlock := harmless.quiet member
    have later : ∀ t ∈ sections, t ∈ all := fun t inRest => within t (by simp [inRest])
    rw [List.map_cons, List.nodup_cons] at distinct
    rw [Exposed, List.pairwise_cons] at exposed
    obtain ⟨region, found⟩ := located s (by simp)
    have replaced : replaceRegion text s.name (manifest.blockFor s) =
        .ok (region.withBody (manifest.blockFor s)) := replaceRegion_of_locate found
    -- The other sections are located behind the first replacement and do not enclose later ones.
    obtain ⟨final, rest⟩ := ih later distinct.2
      (fun t inRest => (locates_replaceRegion_iff plain ofBlock replaced member (later t inRest)
        (fun same => distinct.1 (same ▸ List.mem_map_of_mem inRest))
        (exposed.1 t inRest)).mpr (located t (by simp [inRest])))
      (exposed.2.imp_of_mem fun ofOuter ofInner unnested => not_encloses_of_replaceRegion plain
        ofBlock (later _ ofOuter) (later _ ofInner) replaced unnested)
    exact ⟨final, .step replaced rest⟩

/-- Sections that are located and regenerated do not enclose later ones. -/
theorem Regenerates.exposed (run : Regenerates manifest text sections final)
    (located : AllLocated sections text) : Exposed sections text := by
  -- By induction on the run: what holds of the later sections in the next text is carried back.
  induction run with
  | done => exact List.Pairwise.nil
  | @step s sections text next final replaced rest ih =>
    have member := within s (by simp)
    have ofBlock := harmless.quiet member
    have later : ∀ t ∈ sections, t ∈ all := fun t inRest => within t (by simp [inRest])
    rw [List.map_cons, List.nodup_cons] at distinct
    have different : ∀ t ∈ sections, s.name ≠ t.name :=
      fun t inRest same => distinct.1 (same ▸ List.mem_map_of_mem inRest)
    -- What the first section encloses would be lost, so that its turn would fail.
    have free : ∀ t ∈ sections, ¬ Encloses text s.name t.name := by
      intro t inRest encloses
      obtain ⟨region, found⟩ := located t (by simp [inRest])
      obtain ⟨kind, lost⟩ := lost_of_encloses plain ofBlock replaced member (later t inRest)
        (different t inRest) found encloses
      exact lost (rest.infix_of_mem plain harmless later inRest)
    -- As nothing is enclosed by the first section, the others are still located behind it.
    have exposed := ih later distinct.2 fun t inRest =>
      (locates_replaceRegion_iff plain ofBlock replaced member (later t inRest)
        (different t inRest) (free t inRest)).mpr (located t (by simp [inRest]))
    rw [Exposed, List.pairwise_cons]
    refine ⟨free, exposed.imp_of_mem fun {t u} ofOuter ofInner unnested encloses => unnested ?_⟩
    exact encloses_replaceRegion plain replaced member (later t ofOuter)
      (different t ofOuter) (later u ofInner) (different u ofInner) (free t ofOuter)
      (free u ofInner) encloses

end Run

/-- Checks that all succeed in a certain way are a run of which each result has the property. -/
theorem exists_mapM_iff {α β ε : Type} {check : α → Except ε β} {good : β → Prop}
    {items : List α} :
    (∃ results, items.mapM check = .ok results ∧ ∀ result ∈ results, good result) ↔
      ∀ item ∈ items, ∃ result, check item = .ok result ∧ good result := by
  induction items with
  | nil => simp [Pure.pure, Except.pure]
  | cons item items ih =>
    rw [List.forall_mem_cons, ← ih]
    -- The run stops at the first check that fails.
    cases first : check item with
    | error cause => simp [List.mapM_cons, first, Bind.bind, Except.bind]
    | ok result =>
      cases rest : items.mapM check with
      | error cause => simp [List.mapM_cons, first, rest, Bind.bind, Except.bind]
      | ok results =>
        simp [List.mapM_cons, first, rest, Bind.bind, Except.bind, Pure.pure, Except.pure]

/-- A check tells that a marker of its section does not occur. -/
def SectionCheck.LacksMarker (check : SectionCheck) : Prop :=
  ∃ kind, check.status = .missing (MarkerError.missing check.name kind).message

/-- A region that lacks a hash is not said to lack a marker. -/
theorem compareHash_ne_missing {expected body : Text} {kind : MarkerKind} :
    compareHash expected body ≠ .missing (MarkerError.missing name kind).message := by
  intro same
  unfold compareHash at same
  split at same
  · -- With a hash in the body the outcome is no reason at all.
    split at same <;> cases same
  · -- The two reasons differ in their first letters.
    have reason : noHashReason.head? = some 'n' := by decide +kernel
    have opening : ("Missing marker: " : Text).head? = some 'M' := by decide +kernel
    have spelled : (MarkerError.missing name kind).message =
        "Missing marker: " ++ marker name kind := rfl
    have letters := congrArg List.head? (SectionStatus.missing.inj same)
    rw [reason, spelled, List.head?_append, opening, Option.some_or] at letters
    exact absurd (Option.some.inj letters) (by decide)

/-- What is missing where a name is not located is one of its own markers. -/
theorem eq_missing_of_locate {cause : MarkerError} (fails : locate text name = .error cause)
    (missing : cause.isMissing = true) : ∃ kind, cause = .missing name kind := by
  -- A marker is reported as missing by its own search only, and a duplicate is not missing.
  have ofMarker : ∀ kind, cutOnce text name kind = .error cause → cause = .missing name kind := by
    intro kind none
    unfold cutOnce at none
    split at none
    · cases none
      rfl
    · split at none
      · cases none
        simp [MarkerError.isMissing] at missing
      · cases none
  cases starts : cutOnce text name .start with
  | error early =>
    obtain rfl : early = cause := by simpa [locate, starts, Bind.bind, Except.bind] using fails
    exact ⟨.start, ofMarker .start starts⟩
  | ok sides =>
    cases stops : cutOnce text name .stop with
    | error late =>
      obtain rfl : late = cause := by
        simpa [locate, starts, stops, Bind.bind, Except.bind] using fails
      exact ⟨.stop, ofMarker .stop stops⟩
    | ok sides' =>
      -- With both markers there only their order may be wrong.
      simp only [locate, starts, stops, Bind.bind, Except.bind] at fails
      split at fails
      · cases fails
        simp [MarkerError.isMissing] at missing
      · cases fails

/-- A section that has its table is located exactly if its check succeeds and lacks no marker. -/
theorem exists_checkSection_iff (table : (manifest.tables.get? s.table).isSome) :
    (∃ check, checkSection manifest artifact s = .ok check ∧ ¬ check.LacksMarker) ↔
      ∃ region, locate artifact s.name = .ok region := by
  cases outcome : locate artifact s.name with
  | ok region =>
    -- A located region is compared, which never lacks a marker.
    rw [checkSection_of_locate table outcome]
    simpa [SectionCheck.LacksMarker] using fun kind => compareHash_ne_missing
  | error cause =>
    obtain ⟨table, found⟩ := Option.isSome_iff_exists.mp table
    simp only [reduceCtorEq, exists_false, iff_false, not_exists, not_and, not_not]
    intro check checked
    by_cases missing : cause.isMissing = true
    · -- A missing marker is part of the report.
      obtain ⟨kind, rfl⟩ := eq_missing_of_locate outcome missing
      have same : check = ⟨s.name, .missing (MarkerError.missing s.name kind).message⟩ := by
        simpa [checkSection, sectionTable, Manifest.tableFor, found, outcome, missing,
          Except.mapError, Bind.bind, Except.bind, Pure.pure, Except.pure, eq_comm] using checked
      exact ⟨kind, by simp [same]⟩
    · -- All other faults make the check fail.
      simp [checkSection, sectionTable, Manifest.tableFor, found, outcome, missing,
        Except.mapError, Bind.bind, Except.bind, throw, throwThe, MonadExceptOf.throw] at checked

/-- All sections are located exactly if a report is made of them in which none lacks a marker. -/
theorem allLocated_iff_validate
    (tables : ∀ s ∈ sections, (manifest.tables.get? s.table).isSome) :
    AllLocated sections artifact ↔
      ∃ report, validate manifest sections artifact = .ok report ∧
        ∀ check ∈ report.sections, ¬ check.LacksMarker := by
  -- A report lacks no marker exactly if none of its checks does.
  have each : (∀ s ∈ sections, ∃ check,
      checkSection manifest artifact s = .ok check ∧ ¬ check.LacksMarker) ↔
        AllLocated sections artifact :=
    forall₂_congr fun s member => exists_checkSection_iff (tables s member)
  rw [← each, ← exists_mapM_iff]
  -- The report consists of the checks.
  cases checks : sections.mapM (checkSection manifest artifact) with
  | error cause => simp [validate, checks, Bind.bind, Except.bind]
  | ok checks' => simp [validate, checks, Bind.bind, Except.bind, Pure.pure, Except.pure]

/-- If no name contains a slash and no block contains a marker, rendering fails for an artifact that
lacks a marker, and it fails for a section that is not located and that no earlier one encloses; if
all sections are located, it succeeds exactly if none encloses a later one. So where none does, it
accepts what the check for drift accepts. -/
theorem render_accepts_iff (distinct : (sections.map Section.name).Nodup)
    (plain : ∀ s ∈ sections, '/' ∉ s.name) (served : manifest.require sections = .ok ())
    (harmless : manifest.Harmless sections) :
    (Exposed sections artifact →
        ((∃ rendered, render manifest sections artifact = .ok rendered) ↔
          AllLocated sections artifact)) ∧
      (AllLocated sections artifact →
        ((∃ rendered, render manifest sections artifact = .ok rendered) ↔
          Exposed sections artifact)) ∧
      (∀ rendered, render manifest sections artifact = .ok rendered →
        (∀ s ∈ sections, ∀ kind, marker s.name kind <:+: artifact) ∧
          ∀ front s back, sections = front ++ s :: back →
            (∀ t ∈ front, ¬ Encloses artifact t.name s.name) →
              ∃ region, locate artifact s.name = .ok region) ∧
      (AllLocated sections artifact ↔
        ∃ report, validate manifest sections artifact = .ok report ∧
          ∀ check ∈ report.sections, ¬ check.LacksMarker) := by
  -- Rendering is a run of replacements, to which the theorems on such runs apply.
  have within : ∀ s ∈ sections, s ∈ sections := fun s member => member
  have run : ∀ rendered, render manifest sections artifact = .ok rendered →
      Regenerates manifest artifact sections rendered.text :=
    fun rendered built => (render_eq_ok_iff.mp built).2.1
  have succeeds : AllLocated sections artifact → Exposed sections artifact →
      ∃ rendered, render manifest sections artifact = .ok rendered := by
    intro located exposed
    obtain ⟨final, run⟩ := located.regenerates plain harmless within distinct exposed
    exact ⟨⟨final, _⟩, render_eq_ok_iff.mpr ⟨served, run, rfl⟩⟩
  have locates : ∀ rendered, render manifest sections artifact = .ok rendered →
      ∀ front s back, sections = front ++ s :: back →
        (∀ t ∈ front, ¬ Encloses artifact t.name s.name) →
          ∃ region, locate artifact s.name = .ok region :=
    fun rendered built front s back divided free =>
      (run rendered built).locates plain harmless within distinct divided free
  refine ⟨fun exposed => ⟨?_, fun located => succeeds located exposed⟩,
    fun located => ⟨?_, succeeds located⟩, fun rendered built => ⟨?_, locates rendered built⟩, ?_⟩
  · -- Where no section encloses a later one, each of them is located.
    -- A later section that is enclosed would be lost before its turn.
    rintro ⟨rendered, built⟩ s member
    obtain ⟨front, back, divided⟩ := List.append_of_mem member
    rw [divided, Exposed, List.pairwise_append] at exposed
    exact locates rendered built front s back divided
      fun t inFront => exposed.2.2 t inFront s (by simp)
  · rintro ⟨rendered, built⟩
    exact (run rendered built).exposed plain harmless within distinct located
  · -- Replacing bodies makes no marker, so all of them were there from the first.
    exact fun s member kind => (run rendered built).infix_of_mem plain harmless within member
  · -- The manifest serves each section, so that each of them has its table.
    refine allLocated_iff_validate fun s member => ?_
    obtain ⟨table, found, -⟩ :=
      Manifest.requireOne_eq_ok_iff.mp (Manifest.require_eq_ok_iff.mp served s member)
    simp [found]

/-- The sample artifact is rendered and checked without a missing marker. -/
theorem render_accepts_iff_sample :
    (sampleSections.map Section.name).Nodup ∧ (∀ s ∈ sampleSections, '/' ∉ s.name) ∧
      sampleManifest.require sampleSections = .ok () ∧ sampleManifest.Harmless sampleSections ∧
      Exposed sampleSections sampleArtifact ∧ AllLocated sampleSections sampleArtifact ∧
      (∃ rendered, render sampleManifest sampleSections sampleArtifact = .ok rendered) ∧
      ∃ report, validate sampleManifest sampleSections sampleArtifact = .ok report ∧
        ∀ check ∈ report.sections, ¬ check.LacksMarker := by
  obtain ⟨accepts, -, -, checks⟩ := @render_accepts_iff sampleManifest sampleSections sampleArtifact
    arranged_sample.distinct arranged_sample.plain require_sample harmless_sample
  have exposed : Exposed sampleSections sampleArtifact := by decide +kernel
  have located : AllLocated sampleSections sampleArtifact := arranged_sample.located
  exact ⟨arranged_sample.distinct, arranged_sample.plain, require_sample, harmless_sample, exposed,
    located, (accepts exposed).mpr located, checks.mp located⟩

/-- What the body of the first section was makes no difference. -/
theorem Regenerates.of_body {body : Text} {region : Region}
    (run : Regenerates manifest (region.withBody body) (s :: sections) final)
    (located : locate (region.withBody body) s.name = .ok { region with body })
    (found : locate text s.name = .ok region) :
    Regenerates manifest text (s :: sections) final := by
  cases run with
  | step replaced rest =>
    rw [replaceRegion_of_locate located] at replaced
    obtain rfl := Except.ok.inj replaced
    exact .step (replaceRegion_of_locate found) rest

/-- An artifact in which the start marker of the second sample section stands twice, once in the
region of the first one. -/
def strayArtifact : Text :=
  "/* NX:SPACING:START *//* NX:COLORS:START *//* NX:SPACING:END *//* NX:COLORS:START *//* NX:COLORS:END */"

/-- Rendering may succeed though a section is not located, if an earlier one encloses what is too
much. -/
theorem not_accepted_of_stray :
    ¬ ∀ (manifest : Manifest) (sections : List Section) (artifact : Text),
      (sections.map Section.name).Nodup → (∀ s ∈ sections, '/' ∉ s.name) →
      manifest.require sections = .ok () → manifest.Harmless sections →
      ((∃ rendered, render manifest sections artifact = .ok rendered) ↔
        AllLocated sections artifact) := by
  intro all
  -- Without the stray marker, both sections are located side by side.
  let region : Region := ⟨"/* NX:SPACING:START */", "/* NX:COLORS:START */",
    "/* NX:SPACING:END *//* NX:COLORS:START *//* NX:COLORS:END */"⟩
  have located : AllLocated sampleSections (region.withBody []) := by decide +kernel
  obtain ⟨final, run⟩ := located.regenerates arranged_sample.plain harmless_sample
    (fun s member => member) arranged_sample.distinct (by decide +kernel)
  have run : Regenerates sampleManifest strayArtifact sampleSections final :=
    run.of_body (by decide +kernel) (by decide +kernel)
  have accepted := (all sampleManifest sampleSections strayArtifact arranged_sample.distinct
    arranged_sample.plain require_sample harmless_sample).mp
      ⟨⟨final, _⟩, render_eq_ok_iff.mpr ⟨require_sample, run, rfl⟩⟩
  -- With it, the second section is not located.
  exact absurd accepted (by decide +kernel)

/-- Rendering may fail though all sections are located, if one of them encloses a later one. -/
theorem not_accepted_of_enclosed :
    ¬ ∀ (manifest : Manifest) (sections : List Section) (artifact : Text),
      (sections.map Section.name).Nodup → (∀ s ∈ sections, '/' ∉ s.name) →
      manifest.require sections = .ok () → manifest.Harmless sections →
      AllLocated sections artifact →
      ∃ rendered, render manifest sections artifact = .ok rendered := by
  -- The two sections in turned order, so that the one outside comes before the one in its region.
  intro all
  have distinct : (sampleSections.reverse.map Section.name).Nodup := by decide +kernel
  have within : ∀ s ∈ sampleSections.reverse, s ∈ sampleSections := fun s => List.mem_reverse.mp
  have plain : ∀ s ∈ sampleSections.reverse, '/' ∉ s.name :=
    fun s member => arranged_sample.plain s (within s member)
  have harmless : sampleManifest.Harmless sampleSections.reverse :=
    fun s first t second => harmless_sample s (within s first) t (within t second)
  have located : AllLocated sampleSections.reverse nestedArtifact := by decide +kernel
  obtain ⟨rendered, built⟩ := all sampleManifest _ nestedArtifact distinct plain
    (Manifest.require_perm (List.reverse_perm _) require_sample) harmless located
  obtain ⟨-, run, -⟩ := render_eq_ok_iff.mp built
  have exposed := run.exposed plain harmless (fun s member => member) distinct located
  exact absurd exposed (by decide +kernel)

/-- A section with a short name. -/
def shortSection : Section := { spacingSection with name := "A" }

/-- A section whose end marker is made up of the end of a block and that of the short name. -/
def straddlingSection : Section := { spacingSection with name := "B:END */;\n  /* NX:A" }

/-- What both sections receive. -/
def straddlingBlock : Text :=
  "\n  /* AUTO-GENERATED FROM TOKEN MANIFEST - DO NOT EDIT */\n  /* HASH: sha256-272faacf1ef3 */\n  --nx-space-4: /* NX:B:END */;\n  "

/-- The value brings the front of the end marker into the block. -/
theorem blockFor_straddling : ∀ s ∈ [shortSection, straddlingSection],
    (manifestOf "/* NX:B:END */").blockFor s = straddlingBlock := by decide +kernel

/-- The block contains no marker as a whole. -/
theorem harmless_straddling :
    (manifestOf "/* NX:B:END */").Harmless [shortSection, straddlingSection] := by
  -- All blocks are the same, so that four searches decide it.
  have clean : ∀ t ∈ [shortSection, straddlingSection], ∀ kind ∈ [MarkerKind.start, .stop],
      ¬ Text.occursIn (marker t.name kind) straddlingBlock = true := by decide +kernel
  intro s first t second kind
  rw [blockFor_straddling s first, ← Text.occursIn_iff]
  exact clean t second kind (by cases kind <;> simp)

/-- The region of the short name in a text that lacks the end marker of the other section. -/
def straddledRegion : Region := ⟨marker straddlingSection.name .start, [], marker "A" .stop⟩

/-- Rendering may succeed though a marker does not occur, if a name with a slash makes the marker
reach across a block's end. -/
theorem not_accepted_of_slash :
    ¬ ∀ (manifest : Manifest) (sections : List Section) (artifact : Text),
      (sections.map Section.name).Nodup → manifest.require sections = .ok () →
      manifest.Harmless sections → Exposed sections artifact →
      ((∃ rendered, render manifest sections artifact = .ok rendered) ↔
        AllLocated sections artifact) := by
  intro all
  have served : (manifestOf "/* NX:B:END */").require [shortSection, straddlingSection] =
      .ok () := by decide +kernel
  have located : locate (straddledRegion.withBody []) shortSection.name = .ok straddledRegion := by
    decide +kernel
  -- Behind the block of the first section, the other one is located.
  have behind : AllLocated [straddlingSection] (straddledRegion.withBody straddlingBlock) := by
    decide +kernel
  obtain ⟨q, found⟩ := behind straddlingSection (by simp)
  rw [← blockFor_straddling shortSection (by simp)] at found
  have run := Regenerates.step (replaceRegion_of_locate located)
    (.step (replaceRegion_of_locate found) .done)
  have accepted := (all _ [shortSection, straddlingSection] (straddledRegion.withBody [])
    (by decide +kernel) served harmless_straddling (by decide +kernel)).mp
      ⟨⟨_, _⟩, render_eq_ok_iff.mpr ⟨served, run, rfl⟩⟩
  exact absurd accepted (by decide +kernel)

end TokenGuard
