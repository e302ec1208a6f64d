import Mathlib.Data.List.Nodup
import TokenGuard.Proofs.Marker.Locate
import TokenGuard.Section

/-! An artifact is a frame whose slots hold the bodies of its regions. -/

namespace TokenGuard

/-- What is left of an artifact without the bodies of its regions. -/
structure Frame where
  /-- A slot for each section, with the text that comes between it and the slot before. -/
  slots : List (Text × Section)
  /-- The text behind the last slot. -/
  tail : Text

namespace Frame

/-- A slot that is filled: its gap, and a body between the markers of its section. -/
def slotText (body : Section → Text) (slot : Text × Section) : Text :=
  slot.1 ++ marker slot.2.name .start ++ body slot.2 ++ marker slot.2.name .stop

/-- Consecutive slots that are filled. -/
def fillSlots (body : Section → Text) (slots : List (Text × Section)) : Text :=
  slots.flatMap (slotText body)

/-- The artifact that has certain bodies in the slots of a frame. -/
def fill (frame : Frame) (body : Section → Text) : Text := fillSlots body frame.slots ++ frame.tail

/-- The sections in the order of their slots. -/
def sections (frame : Frame) : List Section := frame.slots.map Prod.snd

/-- The region that a slot makes up between earlier and later ones. -/
def regionAt (body : Section → Text) (earlier : List (Text × Section)) (slot : Text × Section)
    (later : List (Text × Section)) (tail : Text) : Region :=
  ⟨fillSlots body earlier ++ slot.1 ++ marker slot.2.name .start, body slot.2,
    marker slot.2.name .stop ++ fillSlots body later ++ tail⟩

/-- An artifact is a frame with certain bodies, and every section is located in its slot. -/
structure Holds (frame : Frame) (body : Section → Text) (artifact : Text) : Prop where
  /-- The artifact is the frame with the bodies. -/
  text : artifact = frame.fill body
  /-- The region of a section is the one of its slot. -/
  located : ∀ earlier slot later, frame.slots = earlier ++ slot :: later →
    locate artifact slot.2.name = .ok (regionAt body earlier slot later frame.tail)

variable {frame : Frame} {body other : Section → Text} {artifact : Text}
  {slots earlier later : List (Text × Section)} {s : Section}

/-- Filled slots follow one another. -/
theorem fillSlots_append :
    fillSlots body (earlier ++ later) = fillSlots body earlier ++ fillSlots body later := by
  simp [fillSlots]

/-- The first slot stands before all others. -/
theorem fillSlots_cons {slot : Text × Section} :
    fillSlots body (slot :: slots) = slotText body slot ++ fillSlots body slots := by
  simp [fillSlots]

/-- Only the bodies of the sections in the slots matter. -/
theorem fillSlots_congr (same : ∀ s ∈ slots.map Prod.snd, body s = other s) :
    fillSlots body slots = fillSlots other slots := by
  -- Each slot shows one body, that of its own section.
  refine List.flatMap_congr fun slot member => ?_
  rw [slotText, slotText, same slot.2 (List.mem_map_of_mem member)]

/-- Only the bodies of the sections of a frame matter. -/
theorem fill_congr (same : ∀ s ∈ frame.sections, body s = other s) :
    frame.fill body = frame.fill other := by
  rw [fill, fill, fillSlots_congr same]

/-- A section of a frame has a slot. -/
theorem exists_slot (member : s ∈ frame.sections) :
    ∃ earlier gap later, frame.slots = earlier ++ (gap, s) :: later := by
  -- A member of a list divides it.
  obtain ⟨⟨gap, s⟩, slot, rfl⟩ := List.mem_map.mp member
  obtain ⟨earlier, later, divided⟩ := List.append_of_mem slot
  exact ⟨earlier, gap, later, divided⟩

/-- Only the bodies of the sections of a frame matter to what it holds. -/
theorem Holds.congr (holds : frame.Holds body artifact)
    (same : ∀ s ∈ frame.sections, body s = other s) : frame.Holds other artifact := by
  refine ⟨holds.text.trans (fill_congr same), fun earlier slot later divided => ?_⟩
  -- Every section of the region that is compared is one of the frame.
  have inside : ∀ t, t ∈ earlier.map Prod.snd ∨ t = slot.2 ∨ t ∈ later.map Prod.snd →
      body t = other t := by
    intro t somewhere
    exact same t (by simpa [sections, divided] using somewhere)
  rw [holds.located earlier slot later divided, regionAt, regionAt,
    fillSlots_congr fun t before => inside t (.inl before),
    fillSlots_congr fun t behind => inside t (.inr (.inr behind)), inside slot.2 (.inr (.inl rfl))]

/-- A section that is located in its slot has the body of the slot. -/
theorem Holds.locate_body (holds : frame.Holds body artifact) (member : s ∈ frame.sections) :
    ∃ region, locate artifact s.name = .ok region ∧ region.body = body s := by
  obtain ⟨earlier, gap, later, divided⟩ := exists_slot member
  exact ⟨_, holds.located earlier (gap, s) later divided, rfl⟩

/-- Two divisions of the slots name the same slot, or one names an earlier slot than the other. -/
theorem slot_cases {slot slot' : Text × Section} {earlier' later' : List (Text × Section)}
    (same : earlier ++ slot :: later = earlier' ++ slot' :: later') :
    (earlier' = earlier ∧ slot' = slot ∧ later' = later) ∨
      (∃ between, earlier' = earlier ++ slot :: between ∧ later = between ++ slot' :: later') ∨
      ∃ between, earlier = earlier' ++ slot' :: between ∧ later' = between ++ slot :: later := by
  -- One list of earlier slots continues the other, by nothing or by the other slot first.
  rcases List.append_eq_append_iff.mp same with ⟨more, rfl, rest⟩ | ⟨more, rfl, rest⟩
  · cases more with
    | nil => exact .inl (by simpa [and_comm, eq_comm] using rest)
    | cons first between =>
      simp only [List.cons_append, List.cons.injEq] at rest
      obtain ⟨rfl, rest⟩ := rest
      exact .inr (.inl ⟨between, rfl, rest⟩)
  · cases more with
    | nil => exact .inl (by simpa [and_comm, eq_comm] using rest)
    | cons first between =>
      simp only [List.cons_append, List.cons.injEq] at rest
      obtain ⟨rfl, rest⟩ := rest
      exact .inr (.inr ⟨between, rfl, rest⟩)

/-- A new body for a section that is in none of some slots does not change them. -/
theorem fillSlots_update {new : Text} (absent : s ∉ slots.map Prod.snd) :
    fillSlots (Function.update body s new) slots = fillSlots body slots := by
  -- The changed body is that of a section outside of these slots.
  refine fillSlots_congr fun t inside => ?_
  have other : t ≠ s := by
    rintro rfl
    exact absent inside
  simp [other]

/-- A frame with a new body for a section is the artifact with this body in the section's region. -/
theorem fill_update {gap new : Text} (divided : frame.slots = earlier ++ (gap, s) :: later)
    (before : s ∉ earlier.map Prod.snd) (behind : s ∉ later.map Prod.snd) :
    frame.fill (Function.update body s new) =
      (regionAt body earlier (gap, s) later frame.tail).withBody new := by
  simp [fill, divided, fillSlots_append, fillSlots_cons, fillSlots_update before,
    fillSlots_update behind, Region.withBody, regionAt, slotText]

/-- Replacing the body of a section fills its slot anew, and the frame keeps holding. -/
theorem Holds.replace (holds : frame.Holds body artifact)
    (distinct : (frame.sections.map Section.name).Nodup)
    (plain : ∀ t ∈ frame.sections, '/' ∉ t.name) (member : s ∈ frame.sections) {new : Text}
    (insulated : Insulated new)
    (clean : ∀ t ∈ frame.sections, ∀ kind, ¬ marker t.name kind <:+: new) :
    replaceRegion artifact s.name new = .ok (frame.fill (Function.update body s new)) ∧
      frame.Holds (Function.update body s new) (frame.fill (Function.update body s new)) := by
  obtain ⟨earlier, gap, later, divided⟩ := exists_slot member
  have located := holds.located earlier (gap, s) later divided
  -- No other slot is one of the same section.
  have once : s ∉ earlier.map Prod.snd ∧ s ∉ later.map Prod.snd := by
    have nodup := List.Nodup.of_map _ distinct
    rw [sections, divided, List.map_append, List.map_cons, List.nodup_middle,
      List.nodup_cons] at nodup
    simpa using nodup.1
  have changed : frame.fill (Function.update body s new) =
      (regionAt body earlier (gap, s) later frame.tail).withBody new :=
    fill_update divided once.1 once.2
  refine ⟨?_, rfl, ?_⟩
  · simp [replaceRegion, located, changed, Bind.bind, Except.bind, Pure.pure, Except.pure]
  · intro earlier' slot' later' divided'
    have found := holds.located earlier' slot' later' divided'
    have inside : slot'.2 ∈ frame.sections := by simp [sections, divided']
    rw [changed]
    -- A slot is the changed one, or it lies behind it, or before it.
    rcases slot_cases (divided.symm.trans divided') with
      ⟨rfl, rfl, rfl⟩ | ⟨between, rfl, rfl⟩ | ⟨between, rfl, rfl⟩
    · -- The slot itself: no other one shows the new body.
      rw [locate_withBody_self located insulated (plain s member) (clean s member)]
      simp [regionAt, fillSlots_update once.1, fillSlots_update once.2]
    · -- Behind it: what lies in front of the region has changed.
      have follows := locate_withBody_of_follows located insulated (plain _ inside)
        (clean _ inside) found (marker s.name .stop ++ fillSlots body between ++ slot'.1)
        (by simp [regionAt, fillSlots_append, fillSlots_cons, slotText])
      rw [follows]
      simp only [List.map_append, List.map_cons, List.mem_append, List.mem_cons, not_or] at once
      obtain ⟨before, among, other, behind⟩ := once
      simp [regionAt, fillSlots_append, fillSlots_cons, slotText, fillSlots_update before,
        fillSlots_update among, fillSlots_update behind, Ne.symm other]
    · -- Before it: what lies behind the region has changed.
      have precedes := locate_withBody_of_precedes located insulated (plain _ inside)
        (clean _ inside) found (fillSlots body between ++ gap ++ marker s.name .start)
        (by simp [regionAt, fillSlots_append, fillSlots_cons, slotText])
      rw [precedes]
      simp only [List.map_append, List.map_cons, List.mem_append, List.mem_cons, not_or] at once
      obtain ⟨⟨before, other, among⟩, behind⟩ := once
      simp [regionAt, fillSlots_append, fillSlots_cons, slotText, fillSlots_update before,
        fillSlots_update among, fillSlots_update behind, Ne.symm other]

end Frame

end TokenGuard
