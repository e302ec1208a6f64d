import TokenGuard.Proofs.Artifact.Frame

/-! Sections whose regions lie apart in an artifact divide it into a frame and their bodies. -/

namespace TokenGuard

namespace Region

/-- The number of characters before the start marker of a region. -/
def spanStart (region : Region) (name : Text) : Nat :=
  region.before.length - (marker name .start).length

/-- The number of characters up to the end of the end marker of a region. -/
def spanStop (region : Region) (name : Text) : Nat :=
  region.before.length + region.body.length + (marker name .stop).length

end Region

/-- From its start marker to its end marker, no section shares a character with the other. -/
def Apart (artifact : Text) (s t : Section) : Prop :=
  ∀ region other, locate artifact s.name = .ok region → locate artifact t.name = .ok other →
    region.spanStop s.name ≤ other.spanStart t.name ∨
      other.spanStop t.name ≤ region.spanStart s.name

instance (artifact : Text) (s t : Section) : Decidable (Apart artifact s t) :=
  match first : locate artifact s.name, second : locate artifact t.name with
  | .ok region, .ok other =>
    decidable_of_iff (region.spanStop s.name ≤ other.spanStart t.name ∨
      other.spanStop t.name ≤ region.spanStart s.name) (by simp [Apart, first, second])
  | .error _, _ => isTrue (by simp [Apart, first])
  | .ok _, .error _ => isTrue (by simp [Apart, second])

/-- The sections have different names without slashes, and lie apart in the artifact. -/
structure Arranged (sections : List Section) (artifact : Text) : Prop where
  /-- No name is used twice. -/
  distinct : (sections.map Section.name).Nodup
  /-- No name contains a slash. -/
  plain : ∀ s ∈ sections, '/' ∉ s.name
  /-- Every section has a region. -/
  located : ∀ s ∈ sections, ∃ region, locate artifact s.name = .ok region
  /-- The regions of different sections lie apart. -/
  apart : ∀ s ∈ sections, ∀ t ∈ sections, s.name ≠ t.name → Apart artifact s t

/-- The body of a section in an artifact, which is empty if the section has no region. -/
def bodyIn (artifact : Text) (s : Section) : Text :=
  match locate artifact s.name with
  | .ok region => region.body
  | .error _ => []

/-- The number of characters before the start marker of a section, if it has a region. -/
def startIn (artifact : Text) (s : Section) : Nat :=
  match locate artifact s.name with
  | .ok region => region.spanStart s.name
  | .error _ => 0

/-- The first section ends before the second one starts. -/
def Precedes (artifact : Text) (s t : Section) : Prop :=
  ∀ region other, locate artifact s.name = .ok region → locate artifact t.name = .ok other →
    region.spanStop s.name ≤ other.spanStart t.name

variable {artifact : Text} {sections : List Section} {s t : Section}

/-- A region's span is not empty. -/
theorem Region.spanStart_lt_spanStop (region : Region) (name : Text) :
    region.spanStart name < region.spanStop name := by
  -- The end marker alone makes the span longer than its start.
  have positive := marker_length_pos name .stop
  unfold spanStart spanStop
  omega

/-- Of two sections that lie apart, the one that starts first precedes the other. -/
theorem Apart.precedes (apart : Apart artifact s t)
    (first : startIn artifact s ≤ startIn artifact t) : Precedes artifact s t := by
  -- The other way round the second one would end, and so start, before the first one starts.
  intro region other left right
  have later := other.spanStart_lt_spanStop t.name
  simp only [startIn, left, right] at first
  rcases apart region other left right with before | behind
  · exact before
  · omega

/-- Sections that lie apart follow one another if they are taken in the order of their starts. -/
theorem Arranged.exists_ordered (arranged : Arranged sections artifact) :
    ∃ ordered : List Section, ordered.Perm sections ∧ ordered.Pairwise (Precedes artifact) := by
  -- Sorting compares the starts, and different names make the sorted neighbours lie apart.
  let earlier : Section → Section → Bool := fun s t => startIn artifact s ≤ startIn artifact t
  have perm : (sections.mergeSort earlier).Perm sections := List.mergeSort_perm sections earlier
  have sorted : (sections.mergeSort earlier).Pairwise (fun s t => earlier s t) :=
    List.pairwise_mergeSort
      (fun _ _ _ first second => by simp only [earlier, decide_eq_true_eq] at *; omega)
      (fun _ _ => by simp only [earlier, Bool.or_eq_true, decide_eq_true_eq]; omega) sections
  have distinct : (sections.mergeSort earlier).Pairwise (fun s t => s.name ≠ t.name) :=
    List.pairwise_map.mp ((perm.map Section.name).nodup_iff.mpr arranged.distinct)
  refine ⟨sections.mergeSort earlier, perm, ?_⟩
  refine (sorted.and distinct).imp_of_mem fun {s t} left right order => ?_
  have apart := arranged.apart s (perm.mem_iff.mp left) t (perm.mem_iff.mp right) order.2
  exact apart.precedes (by simpa [earlier] using order.1)

open TokenGuard.Frame in
/-- Sections that follow one another behind given slots take the slots that come next. -/
theorem exists_slots (rest : Text) (behind : List (Text × Section))
    (divided : artifact = fillSlots (bodyIn artifact) behind ++ rest)
    (ordered : sections.Pairwise (Precedes artifact))
    (located : ∀ s ∈ sections, ∃ region, locate artifact s.name = .ok region ∧
      (fillSlots (bodyIn artifact) behind).length ≤ region.spanStart s.name) :
    ∃ slots tail, slots.map Prod.snd = sections ∧
      rest = fillSlots (bodyIn artifact) slots ++ tail ∧
      ∀ earlier slot later, slots = earlier ++ slot :: later →
        locate artifact slot.2.name =
          .ok (regionAt (bodyIn artifact) (behind ++ earlier) slot later tail) := by
  -- Each section takes the slot behind those that are taken, with what lies between as its gap.
  induction sections generalizing behind rest with
  | nil => exact ⟨[], rest, rfl, by simp [fillSlots], by simp⟩
  | cons s sections ih =>
    obtain ⟨region, found, low⟩ := located s (by simp)
    obtain ⟨precedes, ordered⟩ := List.pairwise_cons.mp ordered
    obtain ⟨outside, remaining, front, back, -, -⟩ := exists_of_locate found
    have body : bodyIn artifact s = region.body := by simp [bodyIn, found]
    have whole := withBody_of_locate found
    simp only [Region.withBody, front, back, List.append_assoc] at whole
    -- What comes before the start marker continues the slots that are already taken.
    have low : (fillSlots (bodyIn artifact) behind).length ≤ outside.length := by
      simpa [Region.spanStart, front] using low
    have continues : fillSlots (bodyIn artifact) behind <+: outside :=
      List.prefix_of_prefix_length_le ⟨rest, divided.symm⟩ ⟨_, whole⟩ low
    obtain ⟨gap, rfl⟩ := continues
    -- Both divisions of the artifact agree up to the end of the gap, and so in what follows.
    have rests : rest = slotText (bodyIn artifact) (gap, s) ++ remaining := by
      have both := divided.symm.trans whole.symm
      simpa [slotText, body] using both
    have taken : fillSlots (bodyIn artifact) (behind ++ [(gap, s)]) =
        fillSlots (bodyIn artifact) behind ++ slotText (bodyIn artifact) (gap, s) := by
      simp [fillSlots]
    -- The other sections start behind the slot of this one.
    have located : ∀ t ∈ sections, ∃ other, locate artifact t.name = .ok other ∧
        (fillSlots (bodyIn artifact) (behind ++ [(gap, s)])).length ≤ other.spanStart t.name := by
      intro t member
      obtain ⟨other, later, -⟩ := located t (by simp [member])
      refine ⟨other, later, ?_⟩
      have follows := precedes t member region other found later
      simp only [Region.spanStop, front, List.length_append] at follows
      simp only [taken, slotText, body, List.length_append]
      omega
    obtain ⟨slots, tail, names, filled, places⟩ :=
      ih _ _ (by rw [taken, List.append_assoc, ← rests, ← divided]) ordered located
    refine ⟨(gap, s) :: slots, tail, by simp [names], by simp [fillSlots_cons, rests, filled], ?_⟩
    intro earlier slot later split
    cases earlier with
    | nil =>
      -- The first slot is the region that was located.
      simp only [List.nil_append, List.cons.injEq] at split
      obtain ⟨rfl, rfl⟩ := split
      have same : regionAt (bodyIn artifact) behind (gap, s) slots tail = region := by
        simp only [regionAt, body]
        rw [← front, List.append_assoc, ← filled, ← back]
      simpa [same] using found
    -- All other slots are placed by the hypothesis, which counts this one among those behind.
    | cons first earlier =>
      simp only [List.cons_append, List.cons.injEq] at split
      simpa [← split.1] using places earlier slot later split.2

/-- An artifact in which sections lie apart is a frame that holds their bodies. -/
theorem Arranged.exists_frame (arranged : Arranged sections artifact) :
    ∃ frame : Frame, frame.sections.Perm sections ∧ frame.Holds (bodyIn artifact) artifact := by
  obtain ⟨ordered, perm, follow⟩ := arranged.exists_ordered
  -- At first no slot is taken.
  have located : ∀ s ∈ ordered, ∃ region, locate artifact s.name = .ok region ∧
      (Frame.fillSlots (bodyIn artifact) []).length ≤ region.spanStart s.name := by
    intro s member
    obtain ⟨region, found⟩ := arranged.located s (perm.mem_iff.mp member)
    exact ⟨region, found, by simp [Frame.fillSlots]⟩
  obtain ⟨slots, tail, names, filled, places⟩ :=
    exists_slots artifact [] (by simp [Frame.fillSlots]) follow located
  exact ⟨⟨slots, tail⟩, by simpa [Frame.sections, names] using perm, filled,
    fun earlier slot later split => by simpa using places earlier slot later split⟩

end TokenGuard
