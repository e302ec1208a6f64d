import Mathlib.Logic.ExistsUnique
import TokenGuard.Proofs.Marker.Locate
import TokenGuard.Text.ByteSearch

/-! How often the markers of a section occur: a region is located only if no marker occurs twice
without overlapping itself, and a marker that does is reported. -/

namespace TokenGuard

variable {part text name left right before after : Text} {kind : MarkerKind} {region : Region}
  {sides : Text × Text}

namespace Text

/-- A part stands in a text at a byte offset. -/
def OccursAtByte (part text : Text) (offset : Nat) : Prop :=
  ∃ left right, text = left ++ part ++ right ∧ byteSize left = offset

/-- A part occurs in a text twice, the second time not before the first one ends. -/
def OccursApart (part text : Text) : Prop :=
  ∃ first second, OccursAtByte part text first ∧ OccursAtByte part text second ∧
    first + byteSize part ≤ second

/-- A part occurs in a text twice, the second time before the first one ends. -/
def OccursOverlapping (part text : Text) : Prop :=
  ∃ first second, OccursAtByte part text first ∧ OccursAtByte part text second ∧
    first < second ∧ second < first + byteSize part

/-- Of two beginnings of a text the one with fewer bytes is the one with fewer characters. -/
theorem byteSize_le_iff_of_beginnings (first : left <+: text) (second : right <+: text) :
    byteSize left ≤ byteSize right ↔ left.length ≤ right.length := by
  -- Of two beginnings one is a beginning of the other.
  rcases List.prefix_or_prefix_of_prefix first second with ⟨rest, rfl⟩ | ⟨rest, rfl⟩
  · simp [byteSize_append]
  · -- The longer one has as many bytes more as there are in what it has behind the other.
    cases rest with
    | nil => simp
    | cons c rest =>
      have more := byteSize_cons_pos c rest
      simp only [byteSize_append, List.length_append, List.length_cons]
      omega

/-- Of two beginnings of a text the one with fewer characters has fewer bytes. -/
theorem byteSize_lt_iff_of_beginnings (first : left <+: text) (second : right <+: text) :
    byteSize left < byteSize right ↔ left.length < right.length := by
  rw [← Nat.not_le, ← Nat.not_le, byteSize_le_iff_of_beginnings second first]

end Text

open Text

/-- A part occurs twice without overlapping itself exactly if it stands behind another one of it. -/
theorem occursApart_iff :
    OccursApart part text ↔ ∃ left gap right, text = left ++ part ++ gap ++ part ++ right := by
  constructor
  · rintro ⟨_, _, ⟨left, right, first, rfl⟩, ⟨left', right', second, rfl⟩, apart⟩
    -- The text before the second occurrence starts with the first one.
    have ends : left ++ part <+: text := ⟨right, first.symm⟩
    have starts : left' <+: text := ⟨part ++ right', by simp [second]⟩
    rw [← byteSize_append, byteSize_le_iff_of_beginnings ends starts] at apart
    obtain ⟨gap, rfl⟩ := List.prefix_of_prefix_length_le ends starts apart
    exact ⟨left, gap, right', second⟩
  · rintro ⟨left, gap, right, divided⟩
    refine ⟨_, _, ⟨left, gap ++ part ++ right, by simp [divided], rfl⟩,
      ⟨left ++ part ++ gap, right, divided, rfl⟩, ?_⟩
    simp only [byteSize_append]
    omega

/-- Occurrences of a marker that do not overlap have different offsets. -/
theorem exists_ne_of_occursApart (apart : OccursApart (marker name kind) text) :
    ∃ first second, first ≠ second ∧ OccursAtByte (marker name kind) text first ∧
      OccursAtByte (marker name kind) text second := by
  obtain ⟨first, second, here, there, behind⟩ := apart
  -- A marker has at least one byte.
  obtain ⟨tail, opened⟩ := exists_marker_eq_cons name kind
  have positive : 0 < byteSize (marker name kind) := opened ▸ byteSize_cons_pos _ _
  exact ⟨first, second, by omega, here, there⟩

/-- A marker that is cut out of a text has no occurrence that lies apart from another one. -/
theorem not_occursApart_of_cutOnce (unique : cutOnce text name kind = .ok sides) :
    ¬ OccursApart (marker name kind) text := by
  intro apart
  obtain ⟨left, gap, right, divided⟩ := occursApart_iff.mp apart
  -- All occurrences start within the first one, and these two are too far from one another.
  have once := bounds_of_cutOnce unique
  have first := once left (gap ++ marker name kind ++ right) (by simp [divided])
  have second := once (left ++ marker name kind ++ gap) right divided
  simp only [List.length_append] at second
  omega

/-- A marker that is a duplicate has two occurrences apart from one another. -/
theorem occursApart_of_cutOnce
    (rejected : cutOnce text name kind = .error (.duplicate name kind)) :
    OccursApart (marker name kind) text := by
  unfold cutOnce at rejected
  split at rejected
  · simp at rejected
  · next before after found =>
    split at rejected
    · next again =>
      -- The second occurrence is in what stands behind the first one.
      obtain ⟨gap, right, rfl⟩ := Text.occursIn_iff.mp again
      exact occursApart_iff.mpr ⟨before, gap, right, by simp [Text.eq_of_cut? found]⟩
    · cases rejected

/-- A marker is missing, or it is a duplicate, or it is cut out of the text. -/
theorem cutOnce_cases (text name : Text) (kind : MarkerKind) :
    (cutOnce text name kind = .error (.missing name kind) ∧ ¬ marker name kind <:+: text) ∨
      cutOnce text name kind = .error (.duplicate name kind) ∨
        ∃ sides, cutOnce text name kind = .ok sides := by
  unfold cutOnce
  split
  · next none => exact .inl ⟨rfl, Text.cut?_eq_none_iff.mp none⟩
  · split
    · exact .inr (.inl rfl)
    · exact .inr (.inr ⟨_, rfl⟩)

/-- A marker that occurs nowhere is missing. -/
theorem cutOnce_of_none (none : ¬ marker name kind <:+: text) :
    cutOnce text name kind = .error (.missing name kind) := by
  rcases cutOnce_cases text name kind with ⟨missing, -⟩ | duplicate | ⟨sides, unique⟩
  · exact missing
  · -- A duplicate occurs twice, and a marker that is cut out occurs once.
    obtain ⟨left, gap, right, rfl⟩ := occursApart_iff.mp (occursApart_of_cutOnce duplicate)
    exact absurd ⟨left, gap ++ marker name kind ++ right, by simp⟩ none
  · exact absurd ⟨sides.1, sides.2, (eq_of_cutOnce unique).symm⟩ none

/-- A marker that occurs twice without overlapping itself is a duplicate. -/
theorem cutOnce_of_occursApart (apart : OccursApart (marker name kind) text) :
    cutOnce text name kind = .error (.duplicate name kind) := by
  rcases cutOnce_cases text name kind with ⟨-, none⟩ | duplicate | ⟨sides, unique⟩
  · obtain ⟨left, gap, right, rfl⟩ := occursApart_iff.mp apart
    exact absurd ⟨left, gap ++ marker name kind ++ right, by simp⟩ none
  · exact duplicate
  · exact absurd apart (not_occursApart_of_cutOnce unique)

/-- A marker that occurs, and never apart from another occurrence, is cut out of the text. -/
theorem exists_cutOnce_of_occurs {offset : Nat}
    (occurs : OccursAtByte (marker name kind) text offset)
    (together : ¬ OccursApart (marker name kind) text) :
    ∃ sides, cutOnce text name kind = .ok sides := by
  obtain ⟨left, right, divided, -⟩ := occurs
  rcases cutOnce_cases text name kind with ⟨-, none⟩ | duplicate | unique
  · exact absurd ⟨left, right, divided.symm⟩ none
  · exact absurd (occursApart_of_cutOnce duplicate) together
  · exact unique

/-- A marker that is cut out of a text has one offset there, unless it overlaps itself. -/
theorem existsUnique_of_cutOnce (unique : cutOnce text name kind = .ok (before, after))
    (separate : ¬ OccursOverlapping (marker name kind) text) :
    ∃! offset, OccursAtByte (marker name kind) text offset := by
  have divided := eq_of_cutOnce unique
  have here : OccursAtByte (marker name kind) text (byteSize before) :=
    ⟨before, after, divided, rfl⟩
  refine ⟨byteSize before, here, ?_⟩
  rintro _ ⟨left, right, other, rfl⟩
  -- Another occurrence would start within the first one, and so overlap it.
  have bounds := bounds_of_cutOnce unique left right other
  have first : before ++ marker name kind <+: text := ⟨after, divided.symm⟩
  have second : left <+: text := ⟨marker name kind ++ right, by simp [other]⟩
  have early := (byteSize_le_iff_of_beginnings ((List.prefix_append _ _).trans first) second).mpr
    bounds.1
  have late := (byteSize_lt_iff_of_beginnings second first).mpr (by simpa using bounds.2)
  rw [byteSize_append] at late
  refine Decidable.byContradiction fun different => separate ?_
  exact ⟨byteSize before, byteSize left, here, ⟨left, right, other, rfl⟩, by omega, late⟩

/-- Both markers of a located region are cut out of the text. -/
theorem exists_cutOnce_of_locate (located : locate text name = .ok region) (kind : MarkerKind) :
    ∃ before after, cutOnce text name kind = .ok (before, after) := by
  -- A region is made of the two cuts.
  obtain ⟨outside, rest, -, -, starts, stops⟩ := exists_of_locate located
  cases kind with
  | start => exact ⟨_, _, starts⟩
  | stop => exact ⟨_, _, stops⟩

/-- What is wrong with the start marker is reported whatever the end marker is. -/
theorem locate_of_start {cause : MarkerError} (rejected : cutOnce text name .start = .error cause) :
    locate text name = .error cause := by
  simp [locate, rejected, Bind.bind, Except.bind]

/-- What is wrong with the end marker is reported if the start marker is cut out of the text. -/
theorem locate_of_stop {cause : MarkerError} (starts : cutOnce text name .start = .ok sides)
    (rejected : cutOnce text name .stop = .error cause) : locate text name = .error cause := by
  simp [locate, starts, rejected, Bind.bind, Except.bind]

/-- Only a marker that is a duplicate is reported as one. -/
theorem cutOnce_of_locate_eq_duplicate
    (reported : locate text name = .error (.duplicate name kind)) :
    cutOnce text name kind = .error (.duplicate name kind) := by
  -- The error is the one of the first marker that is not cut out of the text.
  have same : ∀ other, cutOnce text name other = .error (.duplicate name kind) →
      other = kind := by
    intro other rejected
    rcases cutOnce_cases text name other with ⟨missing, -⟩ | duplicate | ⟨sides, unique⟩
    · simp [missing] at rejected
    · simpa [duplicate] using rejected
    · simp [unique] at rejected
  cases starts : cutOnce text name .start with
  | error cause =>
    obtain rfl : cause = .duplicate name kind :=
      Except.error.inj ((locate_of_start starts).symm.trans reported)
    exact same .start starts ▸ starts
  | ok sides =>
    cases stops : cutOnce text name .stop with
    | error cause =>
      obtain rfl : cause = .duplicate name kind :=
        Except.error.inj ((locate_of_stop starts stops).symm.trans reported)
      exact same .stop stops ▸ stops
    | ok sides' =>
      -- With both markers there only their order may be wrong.
      simp only [locate, starts, stops, Bind.bind, Except.bind] at reported
      split at reported <;> cases reported

/-- If a region is located, each of its markers occurs, at one offset only unless it overlaps
itself, and never apart from another occurrence; markers apart from one another are reported as
duplicates, of the end marker unless there is something to report of the start marker, and a missing
start marker is reported before anything else. -/
theorem locate_tells_duplicates (text name : Text) :
    (∀ region, locate text name = .ok region → ∀ kind,
      (∃ offset, OccursAtByte (marker name kind) text offset) ∧
        ¬ OccursApart (marker name kind) text ∧
        (¬ OccursOverlapping (marker name kind) text →
          ∃! offset, OccursAtByte (marker name kind) text offset)) ∧
    (OccursApart (marker name .start) text →
      locate text name = .error (.duplicate name .start)) ∧
    (∀ offset, OccursAtByte (marker name .start) text offset →
      ¬ OccursApart (marker name .start) text → OccursApart (marker name .stop) text →
        locate text name = .error (.duplicate name .stop)) ∧
    ((∀ offset, ¬ OccursAtByte (marker name .start) text offset) →
      locate text name = .error (.missing name .start)) ∧
    ∀ kind, locate text name = .error (.duplicate name kind) →
      ∃ first second, first ≠ second ∧ OccursAtByte (marker name kind) text first ∧
        OccursAtByte (marker name kind) text second := by
  refine ⟨fun region located kind => ?_, fun apart => ?_,
    fun offset occurs together apart => ?_, fun none => ?_, fun kind reported => ?_⟩
  · obtain ⟨before, after, unique⟩ := exists_cutOnce_of_locate located kind
    exact ⟨⟨_, before, after, eq_of_cutOnce unique, rfl⟩, not_occursApart_of_cutOnce unique,
      existsUnique_of_cutOnce unique⟩
  · -- The start marker is looked at first.
    exact locate_of_start (cutOnce_of_occursApart apart)
  · -- The start marker passes, so the end marker is looked at.
    obtain ⟨sides, starts⟩ := exists_cutOnce_of_occurs occurs together
    exact locate_of_stop starts (cutOnce_of_occursApart apart)
  · -- Without any offset the marker occurs nowhere.
    refine locate_of_start (cutOnce_of_none ?_)
    rintro ⟨left, right, divided⟩
    exact none _ ⟨left, right, divided.symm, rfl⟩
  · -- Duplicates are reported of markers apart from one another only.
    exact exists_ne_of_occursApart (occursApart_of_cutOnce
      (cutOnce_of_locate_eq_duplicate reported))

/-- A text with a start marker and two end markers of a section. -/
def twiceEndedText : Text := "/* NX:É:START */ é /* NX:É:END *//* NX:É:END */"

/-- A second end marker that touches the first one is reported. -/
theorem locate_tells_duplicates_touching :
    OccursAtByte (marker "É" .start) twiceEndedText 0 ∧
      ¬ OccursApart (marker "É" .start) twiceEndedText ∧
      OccursApart (marker "É" .stop) twiceEndedText ∧
      locate twiceEndedText "É" = .error (.duplicate "É" .stop) := by
  have occurs : OccursAtByte (marker "É" .start) twiceEndedText 0 :=
    ⟨[], " é /* NX:É:END *//* NX:É:END */", by decide +kernel, rfl⟩
  have together : ¬ OccursApart (marker "É" .start) twiceEndedText := by
    intro twice
    obtain ⟨left, gap, right, divided⟩ := occursApart_iff.mp twice
    -- The marker has a letter in it that the text has only once.
    have inside : (marker "É" .start).count 'R' = 1 := by decide +kernel
    have single : twiceEndedText.count 'R' = 1 := by decide +kernel
    simp only [divided, List.count_append, inside] at single
    omega
  have apart : OccursApart (marker "É" .stop) twiceEndedText :=
    occursApart_iff.mpr ⟨"/* NX:É:START */ é ", [], [], by decide +kernel⟩
  exact ⟨occurs, together, apart, (locate_tells_duplicates _ _).2.2.1 0 occurs together apart⟩

/-- A text with two start markers of a section that have a slash in common. -/
def sharedSlashText : Text := "/* NX:A:START */* NX:A:START */ x /* NX:A:END */"

/-- A region may be located though its start marker occurs twice, if the two have the slash between
them in common. -/
theorem not_unique_of_shared_slash :
    ¬ ∀ text name region, locate text name = .ok region → ∀ kind,
      ∃! offset, OccursAtByte (marker name kind) text offset := by
  intro all
  have located : locate sharedSlashText "A" =
      .ok ⟨"/* NX:A:START */", "* NX:A:START */ x ", "/* NX:A:END */"⟩ := rfl
  obtain ⟨offset, -, only⟩ := all _ _ _ located .start
  -- The search for a duplicate starts behind the whole first marker, and so misses the shared
  -- slash.
  have first := only 0 ⟨[], "* NX:A:START */ x /* NX:A:END */", by decide +kernel, rfl⟩
  have second := only 15 ⟨"/* NX:A:START *", " x /* NX:A:END */", by decide +kernel, rfl⟩
  omega

/-- A second end marker is not reported where there is no start marker. -/
theorem not_duplicate_of_unstarted :
    ¬ ∀ text name kind, OccursApart (marker name kind) text →
      locate text name = .error (.duplicate name kind) := by
  intro all
  have apart : OccursApart (marker "A" .stop) "/* NX:A:END *//* NX:A:END */" :=
    occursApart_iff.mpr ⟨[], [], [], rfl⟩
  -- The search for the start marker fails first.
  have missing : locate "/* NX:A:END *//* NX:A:END */" "A" = .error (.missing "A" .start) := rfl
  have reported := missing.symm.trans (all _ _ _ apart)
  simp at reported

end TokenGuard
