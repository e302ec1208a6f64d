import TokenGuard.Proofs.Artifact.Rendering
import TokenGuard.Proofs.Marker.Beside

/-! Regenerating section by section: each one has its block as long as no later one encloses it,
and a block that is replaced again leaves no trace. -/

namespace TokenGuard

variable {manifest : Manifest} {sections : List Section} {s t : Section}
  {text next final name body new : Text}

/-- A body can be replaced exactly if its region is located. -/
theorem replaceRegion_eq_ok_iff :
    replaceRegion text name new = .ok next ↔
      ∃ region, locate text name = .ok region ∧ next = region.withBody new := by
  cases located : locate text name with
  | error cause => simp [replaceRegion, located, Bind.bind, Except.bind]
  | ok region =>
    rw [replaceRegion_of_locate located]
    simp [eq_comm]

/-- A name is located with a certain body. -/
def HasBody (text name body : Text) : Prop :=
  ∃ region, locate text name = .ok region ∧ region.body = body

/-- A body that forms no marker of some sections, neither alone nor with the markers around it. -/
structure Quiet (sections : List Section) (body : Text) : Prop where
  /-- No marker reaches across an end of the body. -/
  insulated : Insulated body
  /-- No marker lies in the body. -/
  clean : ∀ s ∈ sections, ∀ kind, ¬ marker s.name kind <:+: body

/-- The blocks of a harmless manifest are quiet. -/
theorem Manifest.Harmless.quiet (harmless : manifest.Harmless sections) (member : s ∈ sections) :
    Quiet sections (manifest.blockFor s) :=
  ⟨insulated_blockFor manifest s, harmless s member⟩

/-- Replacing a body by itself changes nothing. -/
theorem HasBody.replaceRegion_self (has : HasBody text name body) :
    replaceRegion text name body = .ok text := by
  obtain ⟨region, located, rfl⟩ := has
  rw [replaceRegion_of_locate located, withBody_of_locate located]

/-- A body that forms no marker of a name is found where it was put. -/
theorem HasBody.of_put (plain : '/' ∉ name) (insulated : Insulated new)
    (clean : ∀ kind, ¬ marker name kind <:+: new) (put : replaceRegion text name new = .ok next) :
    HasBody next name new := by
  obtain ⟨region, located, rfl⟩ := replaceRegion_eq_ok_iff.mp put
  exact ⟨_, locate_withBody_self located insulated plain clean, rfl⟩

section Step

variable (plain : ∀ s ∈ sections, '/' ∉ s.name) (quiet : Quiet sections new)

include plain quiet

/-- A quiet body that was put into the region of a section is found there. -/
theorem HasBody.of_replaceRegion (member : s ∈ sections)
    (replaced : replaceRegion text s.name new = .ok next) : HasBody next s.name new :=
  .of_put (plain s member) quiet.insulated (quiet.clean s member) replaced

/-- A body that was replaced makes no difference when it is replaced again. -/
theorem replaceRegion_replaceRegion (member : s ∈ sections)
    (replaced : replaceRegion text s.name new = .ok next) :
    replaceRegion next s.name body = replaceRegion text s.name body := by
  obtain ⟨region, located, rfl⟩ := replaceRegion_eq_ok_iff.mp replaced
  rw [replaceRegion_of_locate located, replaceRegion_of_locate
    (locate_withBody_self located quiet.insulated (plain s member) (quiet.clean s member))]
  rfl

/-- No section encloses another one that it did not enclose before a body was replaced. -/
theorem not_encloses_of_replaceRegion {outer inner : Section} (ofOuter : outer ∈ sections)
    (ofInner : inner ∈ sections) (replaced : replaceRegion text name new = .ok next)
    (unnested : ¬ Encloses text outer.name inner.name) :
    ¬ Encloses next outer.name inner.name := by
  obtain ⟨region, located, rfl⟩ := replaceRegion_eq_ok_iff.mp replaced
  exact fun encloses => unnested (encloses_of_withBody located quiet.insulated
    (plain outer ofOuter) (quiet.clean outer ofOuter) (plain inner ofInner)
    (quiet.clean inner ofInner) encloses)

/-- A marker that occurs after a body was replaced occurred before. -/
theorem infix_of_replaceRegion {kind : MarkerKind} (member : s ∈ sections)
    (replaced : replaceRegion text name new = .ok next)
    (occurs : marker s.name kind <:+: next) : marker s.name kind <:+: text := by
  obtain ⟨region, located, rfl⟩ := replaceRegion_eq_ok_iff.mp replaced
  exact infix_of_withBody located quiet.insulated (plain s member) (quiet.clean s member) occurs

/-- A quiet body is kept when the body of another section is replaced, or it is lost with all
around it. -/
theorem HasBody.keep_or_lose (has : HasBody text s.name body) (ofQuiet : Quiet sections body)
    (first : s ∈ sections) (second : t ∈ sections) (different : s.name ≠ t.name)
    (replaced : replaceRegion text t.name new = .ok next) :
    HasBody next s.name body ∨
      Encloses text t.name s.name ∧ ¬ marker s.name .start <:+: next := by
  obtain ⟨region, located, rfl⟩ := has
  obtain ⟨q, found, rfl⟩ := replaceRegion_eq_ok_iff.mp replaced
  rcases before_or_before_or_within located found (plain s first) (plain t second)
    ofQuiet.insulated (ofQuiet.clean t second) with before | behind | within
  · -- Regions side by side do not touch each other, whichever comes first.
    exact .inl (exists_locate_withBody found quiet.insulated (plain s first)
      (quiet.clean s first) located (.inr before))
  · exact .inl (exists_locate_withBody found quiet.insulated (plain s first)
      (quiet.clean s first) located (.inl behind))
  · -- A region within the other one goes with the old body, and the new body does not bring it
    -- back.
    exact .inr ⟨encloses_of_within located found (plain s first) (plain t second) different within,
      not_infix_of_within located found (plain s first) (plain t second) different within
        quiet.insulated (quiet.clean s first)⟩

end Step

/-- All sections are located with quiet bodies. -/
def Calm (sections : List Section) (text : Text) : Prop :=
  ∀ s ∈ sections, ∃ body, HasBody text s.name body ∧ Quiet sections body

section Calm

variable (plain : ∀ s ∈ sections, '/' ∉ s.name) (calm : Calm sections text)

include plain calm

/-- In a calm text the regions of different names are side by side. -/
theorem Calm.before_or_before {region q : Region} (first : s ∈ sections) (second : t ∈ sections)
    (different : s.name ≠ t.name) (located : locate text s.name = .ok region)
    (found : locate text t.name = .ok q) :
    region.Before q s.name t.name ∨ q.Before region t.name s.name := by
  -- Calm sections have quiet bodies, and these are the bodies of the regions at hand.
  obtain ⟨_, ⟨_, here, rfl⟩, quiet⟩ := calm s first
  obtain rfl := Except.ok.inj (located.symm.trans here)
  obtain ⟨_, ⟨_, there, rfl⟩, quiet'⟩ := calm t second
  obtain rfl := Except.ok.inj (found.symm.trans there)
  rcases before_or_before_or_within located found (plain s first) (plain t second)
    quiet.insulated (quiet.clean t second) with before | behind | within
  · exact .inl before
  · exact .inr behind
  · -- If the one lay in the other, it would be lost even without a change.
    have lost := not_infix_of_within located found (plain s first) (plain t second) different within
      quiet'.insulated (quiet'.clean s first)
    rw [withBody_of_locate found] at lost
    exact absurd (infix_of_locate located) lost

/-- A calm text stays calm when a body is replaced by a quiet one. -/
theorem Calm.replace (quiet : Quiet sections new) (member : s ∈ sections)
    (replaced : replaceRegion text s.name new = .ok next) : Calm sections next := by
  intro t other
  -- Sections of the same name share the new body; all others keep their own.
  by_cases same : t.name = s.name
  · exact ⟨new, same ▸ .of_replaceRegion plain quiet member replaced, quiet⟩
  · obtain ⟨body, ⟨region, located, rfl⟩, ofQuiet⟩ := calm t other
    obtain ⟨q, found, rfl⟩ := replaceRegion_eq_ok_iff.mp replaced
    have beside := calm.before_or_before plain member other (Ne.symm same) found located
    exact ⟨region.body, exists_locate_withBody found quiet.insulated (plain t other)
      (quiet.clean t other) located beside, ofQuiet⟩

/-- In a calm text two sections of different names may be replaced in either order. -/
theorem Calm.replaceRegion_comm {x y u v : Text} (ofX : Quiet sections x) (ofY : Quiet sections y)
    (first : s ∈ sections) (second : t ∈ sections) (different : s.name ≠ t.name)
    (replaced : replaceRegion text s.name x = .ok u)
    (replaced' : replaceRegion text t.name y = .ok v) :
    ∃ both, replaceRegion u t.name y = .ok both ∧ replaceRegion v s.name x = .ok both := by
  obtain ⟨region, located, rfl⟩ := replaceRegion_eq_ok_iff.mp replaced
  obtain ⟨q, found, rfl⟩ := replaceRegion_eq_ok_iff.mp replaced'
  -- One of the two regions comes before the other.
  rcases calm.before_or_before plain first second different located found with before | behind
  · exact TokenGuard.replaceRegion_comm located found before (plain s first) (plain t second)
      ofX.insulated ofY.insulated (ofX.clean t second) (ofY.clean s first)
  · obtain ⟨both, one, other⟩ := TokenGuard.replaceRegion_comm found located behind
      (plain t second) (plain s first) ofY.insulated ofX.insulated (ofY.clean s first)
      (ofX.clean t second)
    exact ⟨both, other, one⟩

end Calm

/-- Putting their blocks into the regions of sections in order leads from one text to another. -/
inductive Regenerates (manifest : Manifest) : Text → List Section → Text → Prop
  /-- Without sections the text stays. -/
  | done {text : Text} : Regenerates manifest text [] text
  /-- The first section receives its block, and the others are regenerated in what this left. -/
  | step {s : Section} {sections : List Section} {text next final : Text}
      (replaced : replaceRegion text s.name (manifest.blockFor s) = .ok next)
      (rest : Regenerates manifest next sections final) :
      Regenerates manifest text (s :: sections) final

/-- Regenerating sections leads to one text only. -/
theorem Regenerates.unique {other : Text} (run : Regenerates manifest text sections final)
    (run' : Regenerates manifest text sections other) : final = other := by
  -- A step leaves no choice, as replacing a body gives one text.
  induction run with
  | done =>
    cases run'
    rfl
  | step replaced rest ih =>
    cases run' with
    | step replaced' rest' =>
      obtain rfl := Except.ok.inj (replaced.symm.trans replaced')
      exact ih rest'

/-- Where all tables exist, rendering sections is regenerating them and counting their lines. -/
theorem renderSections_eq_ok_iff {rendered : Rendered}
    (served : ∀ s ∈ sections, sectionTable manifest s = .ok (manifest.shown s)) :
    renderSections manifest text sections = .ok rendered ↔
      Regenerates manifest text sections rendered.text ∧
        rendered.sections = sections.map fun s => summarize s (manifest.shown s) := by
  -- Both sides go through the sections in order and hand on the text.
  induction sections generalizing text rendered with
  | nil =>
    obtain ⟨final, summaries⟩ := rendered
    constructor
    · intro built
      cases built
      exact ⟨.done, rfl⟩
    · rintro ⟨run, same⟩
      cases run
      simp [renderSections, show summaries = [] from same]
  | cons s sections ih =>
    have ih := fun {text rendered} => @ih text rendered fun t member => served t (by simp [member])
    have table := served s (by simp)
    have block : sectionBlock s (manifest.shown s) = manifest.blockFor s := rfl
    obtain ⟨final, summaries⟩ := rendered
    -- Both ways the region of the first section is replaced, and then the others are rendered.
    constructor
    · intro built
      cases replaced : replaceRegion text s.name (manifest.blockFor s) with
      | error cause =>
        simp [renderSections, table, block, replaced, Except.mapError, Bind.bind,
          Except.bind] at built
      | ok next =>
        cases rest : renderSections manifest next sections with
        | error cause =>
          simp [renderSections, table, block, replaced, rest, Except.mapError, Bind.bind,
            Except.bind] at built
        | ok rendered =>
          obtain ⟨run, same⟩ := ih.mp rest
          simp only [renderSections, table, block, replaced, rest, Except.mapError, Bind.bind,
            Except.bind, Pure.pure, Except.pure, Except.ok.injEq, Rendered.mk.injEq] at built
          obtain ⟨rfl, rfl⟩ := built
          exact ⟨.step replaced run, by simp [same]⟩
    · rintro ⟨run, same⟩
      cases run with
      | @step _ _ _ next _ replaced rest =>
        have others : renderSections manifest next sections =
            .ok ⟨final, sections.map fun s => summarize s (manifest.shown s)⟩ :=
          ih.mpr ⟨rest, rfl⟩
        simp only at same
        simp [renderSections, table, block, replaced, others, same, Except.mapError, Bind.bind,
          Except.bind, Pure.pure, Except.pure]

/-- Rendering succeeds exactly if the manifest serves the sections and they can be regenerated. -/
theorem render_eq_ok_iff {rendered : Rendered} :
    render manifest sections text = .ok rendered ↔
      manifest.require sections = .ok () ∧ Regenerates manifest text sections rendered.text ∧
        rendered.sections = sections.map fun s => summarize s (manifest.shown s) := by
  -- A manifest that serves the sections has all of their tables.
  cases served : manifest.require sections with
  | error cause => simp [render, served, Except.mapError, Bind.bind, Except.bind]
  | ok done =>
    have tables : ∀ s ∈ sections, sectionTable manifest s = .ok (manifest.shown s) :=
      fun s member => Manifest.sectionTable_of_require served member
    simp [render, served, Except.mapError, Bind.bind, Except.bind,
      renderSections_eq_ok_iff tables]

namespace Regenerates

variable {all : List Section} (plain : ∀ s ∈ all, '/' ∉ s.name) (harmless : manifest.Harmless all)
  (run : Regenerates manifest text sections final) (within : ∀ s ∈ sections, s ∈ all)

include plain harmless run within

/-- Every section that is regenerated has both of its markers from the first. -/
theorem infix_of_mem {kind : MarkerKind} (member : s ∈ sections) :
    marker s.name kind <:+: text := by
  -- A later section has its markers in the next text, and replacing made none of them.
  induction run with
  | done => simp at member
  | @step t sections text next final replaced rest ih =>
    rcases List.mem_cons.mp member with rfl | later
    · obtain ⟨region, located, -⟩ := replaceRegion_eq_ok_iff.mp replaced
      exact infix_of_locate located
    · exact infix_of_replaceRegion plain (harmless.quiet (within t (by simp)))
        (within s member) replaced (ih (fun u later => within u (by simp [later])) later)

/-- A marker that occurs in the end occurred at first. -/
theorem occurs_of_occurs {kind : MarkerKind} (member : s ∈ all)
    (occurs : marker s.name kind <:+: final) : marker s.name kind <:+: text := by
  -- Each step of the run carries the marker back to the text before it.
  induction run with
  | done => exact occurs
  | @step t sections text next final replaced rest ih =>
    exact infix_of_replaceRegion plain (harmless.quiet (within t (by simp))) member replaced
      (ih (fun u later => within u (by simp [later])) occurs)

/-- A quiet body is kept while sections of other names are regenerated, or one that encloses its
section makes it lost. -/
theorem keeps_or_loses (has : HasBody text s.name body) (quiet : Quiet all body)
    (member : s ∈ all) (other : s.name ∉ sections.map Section.name) :
    HasBody final s.name body ∨
      (∃ t ∈ sections, Encloses text t.name s.name) ∧ ¬ marker s.name .start <:+: final := by
  -- Step by step the body is kept, until a section that encloses its region comes.
  induction run with
  | done => exact .inl has
  | @step t sections text next final replaced rest ih =>
    simp only [List.map_cons, List.mem_cons, not_or] at other
    have ofBlock := harmless.quiet (within t (by simp))
    have later : ∀ u ∈ sections, u ∈ all := fun u inRest => within u (by simp [inRest])
    rcases has.keep_or_lose plain ofBlock quiet member (within t (by simp)) other.1 replaced with
      kept | ⟨encloses, lost⟩
    · refine (ih later kept other.2).imp_right fun ⟨⟨u, inRest, encloses⟩, lost⟩ =>
        ⟨⟨u, by simp [inRest], ?_⟩, lost⟩
      -- What encloses the section in the next text did so before.
      by_contra unnested
      exact not_encloses_of_replaceRegion plain ofBlock (later u inRest) member replaced unnested
        encloses
    · -- What is lost does not come back.
      exact .inr ⟨⟨t, by simp, encloses⟩,
        fun occurs => lost (rest.occurs_of_occurs plain harmless later member occurs)⟩

/-- The last section of each name has its block in the end, or a section behind it encloses it
and makes it lost. -/
theorem hasBody_or_lost {rest : List Section} (suffix : s :: rest <:+ sections)
    (last : s.name ∉ rest.map Section.name) :
    HasBody final s.name (manifest.blockFor s) ∨
      (∃ t ∈ rest, Encloses text t.name s.name) ∧ ¬ marker s.name .start <:+: final := by
  -- The block is put in when the turn of its section comes; what follows keeps it or loses it.
  induction run with
  | done => simp at suffix
  | @step t sections text next final replaced run ih =>
    have ofBlock := harmless.quiet (within t (by simp))
    have later : ∀ u ∈ sections, u ∈ all := fun u inRest => within u (by simp [inRest])
    have member : s ∈ all := within s (suffix.subset (by simp))
    -- Whether the section comes first or later, what encloses it then did so before.
    have settled : HasBody final s.name (manifest.blockFor s) ∨
        (∃ u ∈ rest, Encloses next u.name s.name) ∧ ¬ marker s.name .start <:+: final := by
      rcases List.suffix_cons_iff.mp suffix with same | behind
      · obtain ⟨rfl, rfl⟩ := List.cons.inj same
        exact run.keeps_or_loses plain harmless later
          (.of_replaceRegion plain ofBlock member replaced) ofBlock member last
      · exact ih later behind
    refine settled.imp_right fun ⟨⟨u, inRest, encloses⟩, lost⟩ => ⟨⟨u, inRest, ?_⟩, lost⟩
    have ofOuter : u ∈ all := within u (suffix.subset (by simp [inRest]))
    by_contra unnested
    exact not_encloses_of_replaceRegion plain ofBlock ofOuter member replaced unnested encloses

/-- What was put into a region before leaves no trace where its section is regenerated. -/
theorem absorb (calm : Calm all text) (quiet : Quiet all new) (member : s ∈ all)
    (again : s.name ∈ sections.map Section.name)
    (replaced : replaceRegion text s.name new = .ok next) :
    Regenerates manifest next sections final := by
  -- The change is moved back behind one section after another, up to the one that overwrites it.
  induction run generalizing next with
  | done => simp at again
  | @step t sections text first final replaced' rest ih =>
    have ofFirst := within t (by simp)
    have ofBlock := harmless.quiet ofFirst
    by_cases same : s.name = t.name
    · -- The region itself is replaced again.
      have overwritten : replaceRegion next s.name (manifest.blockFor t) =
          replaceRegion text s.name (manifest.blockFor t) :=
        replaceRegion_replaceRegion plain quiet member replaced
      rw [same, replaced'] at overwritten
      exact .step overwritten rest
    · -- Both replacements may change places, and then the other sections absorb the first one.
      simp only [List.map_cons, List.mem_cons] at again
      obtain ⟨both, one, other⟩ := calm.replaceRegion_comm plain quiet ofBlock member ofFirst same
        replaced replaced'
      exact .step one (ih (fun u later => within u (by simp [later]))
        (calm.replace plain ofBlock ofFirst replaced') (again.resolve_left same) other)

end Regenerates

/-- A name that is used has a last section behind which it is not used again. -/
theorem exists_last_of_mem (used : name ∈ sections.map Section.name) :
    ∃ last rest, last :: rest <:+ sections ∧ last.name = name ∧
      last.name ∉ rest.map Section.name := by
  -- Either the name is used again further behind, or the first section is the last one of its name.
  induction sections with
  | nil => simp at used
  | cons s sections ih =>
    by_cases again : name ∈ sections.map Section.name
    · obtain ⟨last, rest, suffix, named, fresh⟩ := ih again
      exact ⟨last, rest, suffix.trans (List.suffix_cons s sections), named, fresh⟩
    · simp only [List.map_cons, List.mem_cons] at used
      obtain rfl := used.resolve_right again
      exact ⟨s, sections, List.suffix_refl _, rfl, again⟩

end TokenGuard
