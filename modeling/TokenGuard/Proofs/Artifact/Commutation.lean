import TokenGuard.Proofs.Artifact.Regeneration
import TokenGuard.Text.Blank

/-! Regions of different names that share no character do not disturb each other: each keeps its
body while the other one's is replaced, and the two may be replaced in either order. -/

namespace TokenGuard

variable {text name other x y : Text} {region q : Region}

/-- A body that starts and ends with a blank and contains no marker of some names. -/
structure Spaced (names : List Text) (body : Text) : Prop where
  /-- A blank is behind the start marker. -/
  first : body.head?.any isBlank = true
  /-- A blank is before the end marker. -/
  last : body.getLast?.any isBlank = true
  /-- No marker lies in the body. -/
  clean : ∀ name ∈ names, ∀ kind, ¬ marker name kind <:+: body

instance (names : List Text) (body : Text) : Decidable (Spaced names body) :=
  decidable_of_iff (body.head?.any isBlank = true ∧ body.getLast?.any isBlank = true ∧
      ∀ name ∈ names, ¬ marker name .start <:+: body ∧ ¬ marker name .stop <:+: body)
    ⟨fun ⟨first, last, clean⟩ => ⟨first, last, fun name member kind =>
        match kind with
        | .start => (clean name member).1
        | .stop => (clean name member).2⟩,
      fun spaced => ⟨spaced.first, spaced.last, fun name member =>
        ⟨spaced.clean name member .start, spaced.clean name member .stop⟩⟩⟩

/-- A body between blanks forms no comment with the slashes of the markers around it. -/
theorem Spaced.insulated {names : List Text} {body : Text} (spaced : Spaced names body) :
    Insulated body where
  nonempty := by
    rintro rfl
    exact absurd spaced.first (by simp)
  -- An asterisk is no blank.
  head := fun asterisk => by
    have blank := spaced.first
    rw [asterisk] at blank
    exact absurd blank (by decide)
  last := fun asterisk => by
    have blank := spaced.last
    rw [asterisk] at blank
    exact absurd blank (by decide)

/-- A region that ends before another one starts is before it. -/
theorem Region.before_of_spanStop_le (located : locate text name = .ok region)
    (found : locate text other = .ok q) (apart : region.spanStop name ≤ q.spanStart other) :
    region.Before q name other := by
  -- Both markers are cut out of one text, at places whose order the numbers tell.
  obtain ⟨_, rest, -, -, -, stops⟩ := exists_of_locate located
  obtain ⟨ahead, _, front, -, starts, -⟩ := exists_of_locate found
  simp only [spanStop, spanStart, front, List.length_append, Nat.add_sub_cancel] at apart
  -- What precedes the second start marker goes on behind the first end marker.
  have leading : region.before ++ region.body ++ marker name .stop <+: ahead := by
    refine List.prefix_of_prefix_length_le ⟨rest, (eq_of_cutOnce stops).symm⟩
      ⟨marker other .start ++ (q.body ++ q.after), by simpa using (eq_of_cutOnce starts).symm⟩ ?_
    simpa only [List.length_append] using apart
  obtain ⟨gap, rfl⟩ := leading
  exact ⟨marker name .stop ++ gap ++ marker other .start, by simp [front],
    by simp [List.append_assoc], List.suffix_append _ _⟩

/-- Regions that share no character are side by side. -/
theorem Region.before_or_before_of_apart (located : locate text name = .ok region)
    (found : locate text other = .ok q)
    (apart : region.spanStop name ≤ q.spanStart other ∨ q.spanStop other ≤ region.spanStart name) :
    region.Before q name other ∨ q.Before region other name :=
  apart.imp (before_of_spanStop_le located found) (before_of_spanStop_le found located)

/-- Regions that share no character keep their bodies while the other one's is replaced, and it does
not matter which of the two is replaced first. -/
theorem replaceRegion_commutes (located : locate text name = .ok region)
    (found : locate text other = .ok q) (plain : '/' ∉ name) (plain' : '/' ∉ other)
    (apart : region.spanStop name ≤ q.spanStart other ∨ q.spanStop other ≤ region.spanStart name)
    (spaced : Spaced [name, other] x) (spaced' : Spaced [name, other] y) :
    ∃ left right both,
      replaceRegion text name x = .ok left ∧ HasBody left other q.body ∧
      replaceRegion text other y = .ok right ∧ HasBody right name region.body ∧
      replaceRegion left other y = .ok both ∧ replaceRegion right name x = .ok both ∧
      HasBody both name x ∧ HasBody both other y := by
  have clean : ∀ kind, ¬ marker other kind <:+: x := spaced.clean other (by simp)
  have clean' : ∀ kind, ¬ marker name kind <:+: y := spaced'.clean name (by simp)
  have beside := Region.before_or_before_of_apart located found apart
  -- Either region is found beside the new body of the other one.
  have kept : HasBody (region.withBody x) other q.body :=
    exists_locate_withBody located spaced.insulated plain' clean found beside
  have kept' : HasBody (q.withBody y) name region.body :=
    exists_locate_withBody found spaced'.insulated plain clean' located beside.symm
  -- The law for one region before another one serves both arrangements.
  have both : ∃ both, replaceRegion (region.withBody x) other y = .ok both ∧
      replaceRegion (q.withBody y) name x = .ok both := by
    rcases beside with before | behind
    · exact replaceRegion_comm located found before plain plain' spaced.insulated
        spaced'.insulated clean clean'
    · obtain ⟨both, second, first⟩ := replaceRegion_comm found located behind plain' plain
        spaced'.insulated spaced.insulated clean' clean
      exact ⟨both, first, second⟩
  obtain ⟨both, second, first⟩ := both
  -- Whichever body is put in last is found there.
  exact ⟨_, _, both, replaceRegion_of_locate located, kept, replaceRegion_of_locate found, kept',
    second, first, .of_put plain spaced.insulated (spaced.clean name (by simp)) first,
    .of_put plain' spaced'.insulated (spaced'.clean other (by simp)) second⟩

/-- A text with two regions that touch, the name of one starting with that of the other. -/
def similarText : Text :=
  "/* NX:S_X:START */*//* NX:S_X:END *//* NX:S:START */é/* NX:S:END */* NX:S:END"

/-- The region of the shorter name. -/
def shorterRegion : Region where
  before := "/* NX:S_X:START */*//* NX:S_X:END *//* NX:S:START */"
  body := "é"
  after := "/* NX:S:END */* NX:S:END"

/-- The region of the longer name. -/
def longerRegion : Region where
  before := "/* NX:S_X:START */"
  body := "*/"
  after := "/* NX:S_X:END *//* NX:S:START */é/* NX:S:END */* NX:S:END"

/-- Bodies of names that start alike are replaced in either order. -/
theorem replaceRegion_commutes_similar :
    locate similarText "S" = .ok shorterRegion ∧ locate similarText "S_X" = .ok longerRegion ∧
      ∃ left right both,
        replaceRegion similarText "S" "\n/* NX:S:\n" = .ok left ∧
        replaceRegion similarText "S_X" " START */ " = .ok right ∧
        replaceRegion left "S_X" " START */ " = .ok both ∧
        replaceRegion right "S" "\n/* NX:S:\n" = .ok both := by
  -- The one name starts with the other, and the new bodies hold pieces of markers.
  have located : locate similarText "S" = .ok shorterRegion := by decide +kernel
  have found : locate similarText "S_X" = .ok longerRegion := by decide +kernel
  have spaced : Spaced ["S", "S_X"] "\n/* NX:S:\n" := by decide +kernel
  have spaced' : Spaced ["S", "S_X"] " START */ " := by decide +kernel
  have apart : longerRegion.spanStop "S_X" ≤ shorterRegion.spanStart "S" := by decide +kernel
  obtain ⟨left, right, both, first, -, second, -, behind, before, -⟩ :=
    replaceRegion_commutes located found (by decide) (by decide) (.inr apart) spaced spaced'
  exact ⟨located, found, left, right, both, first, second, behind, before⟩

end TokenGuard
