import TokenGuard.Proofs.Marker.Beside
import TokenGuard.Text.ByteSearch

/-! A body that forms no marker with the two markers around it is found where it was put, whatever
characters the name has, and nothing is left of the body that was there before. -/

namespace TokenGuard

variable {text name new left right ahead rest : Text} {region : Region} {kind : MarkerKind}

/-- Around a body between the two markers of a name, the start marker occurs at the very beginning
only and the end marker at the very end only. -/
def EnclosedOnce (name body : Text) : Prop :=
  let enclosed := marker name .start ++ body ++ marker name .stop
  (∀ place ∈ Text.places (marker name .start) enclosed, place = 0) ∧
    ∀ place ∈ Text.places (marker name .stop) enclosed,
      place = (marker name .start ++ body).length

instance (name body : Text) : Decidable (EnclosedOnce name body) :=
  inferInstanceAs (Decidable ((∀ place ∈ _, _) ∧ ∀ place ∈ _, _))

/-- The start marker does not begin with the last character before the end marker. -/
theorem marker_append_ne_cons (name : Text) (kind kind' : MarkerKind) (c : Char) :
    marker name kind ++ left ≠ c :: (marker name kind' ++ right) := by
  -- The second characters differ: an asterisk follows the slash of a marker.
  obtain ⟨tail, opened⟩ := exists_marker_eq_cons name kind
  obtain ⟨tail', opened'⟩ := exists_marker_eq_cons name kind'
  rw [opened, opened']
  simp

/-- No marker of the name starts between the markers or reaches into the body. -/
theorem EnclosedOnce.not_within (enclosed : EnclosedOnce name new)
    (found : ahead ++ (marker name .start ++ new ++ marker name .stop) ++ rest =
      left ++ marker name kind ++ right)
    (reaches : (ahead ++ marker name .start).length < left.length + (marker name kind).length) :
    (ahead ++ marker name .start ++ new).length ≤ left.length := by
  refine Nat.le_of_not_lt fun within => ?_
  have size := length_marker_start name
  -- What lies inside occurs there, at a place that the condition speaks of.
  have place : ∀ before after, marker name .start ++ new ++ marker name .stop =
      before ++ marker name kind ++ after → before.length ∈ Text.places (marker name kind)
        (marker name .start ++ new ++ marker name .stop) :=
    fun before after same =>
      (Text.mem_places_iff (marker_ne_nil _ _)).mpr ⟨before, after, same, rfl⟩
  simp only [List.length_append] at reaches within
  cases kind with
  | stop =>
    -- An end marker that starts before the one behind the body ends before it, too.
    obtain ⟨before, after, rfl, inside⟩ := Text.exists_inside found (by omega)
      (by simp only [List.length_append]; omega)
    have ends := enclosed.2 _ (place before after inside)
    simp only [List.length_append] at ends within
    omega
  | start =>
    rcases Nat.lt_or_ge (ahead ++ (marker name .start ++ new ++ marker name .stop)).length
      (left.length + (marker name .start).length) with beyond | fits
    · -- Being two characters longer, it starts right before the end marker to end behind it.
      simp only [List.length_append] at beyond
      have divided : (ahead ++ marker name .start ++ new) ++ (marker name .stop ++ rest) =
          left ++ (marker name .start ++ right) := by simpa using found
      rcases List.append_eq_append_iff.mp divided with ⟨gap, same, -⟩ | ⟨gap, same, behind⟩
      · have lengths := congrArg List.length same
        simp only [List.length_append] at lengths
        omega
      · have one : gap.length = 1 := by
          have lengths := congrArg List.length same
          simp only [List.length_append] at lengths
          omega
        obtain ⟨c, rfl⟩ := List.length_eq_one_iff.mp one
        exact marker_append_ne_cons name .start .stop c behind
    · -- Otherwise it is all inside, where only the first one is.
      obtain ⟨before, after, rfl, inside⟩ := Text.exists_inside found (by omega)
        (by simpa using fits)
      have starts := enclosed.1 _ (place before after inside)
      simp only [List.length_append] at starts reaches
      omega

/-- The markers of a name lie outside a body that forms none with those around it. -/
theorem EnclosedOnce.outside (enclosed : EnclosedOnce name new) (kind : MarkerKind) :
    Outside (marker name kind) (ahead ++ marker name .start) new
      (marker name .stop ++ rest) := by
  intro left right found
  rcases Nat.lt_or_ge (ahead ++ marker name .start).length
    (left.length + (marker name kind).length) with reaches | early
  · -- What does not end before the body starts behind it.
    have late := enclosed.not_within (by simpa using found) reaches
    have behind : ahead ++ marker name .start ++ new <+: left :=
      List.prefix_of_prefix_length_le ⟨marker name .stop ++ rest, rfl⟩
        ⟨marker name kind ++ right, by simpa using found.symm⟩ late
    obtain ⟨between, rfl⟩ := behind
    exact .inr ⟨between, rfl, by simpa using found⟩
  · -- What ends before the body starts is in front of it.
    have inFront : left ++ marker name kind <+: ahead ++ marker name .start :=
      List.prefix_of_prefix_length_le ⟨right, found.symm⟩
        ⟨new ++ (marker name .stop ++ rest), by simp⟩ (by simpa using early)
    obtain ⟨between, same⟩ := inFront
    exact .inl ⟨between, same.symm⟩

/-- The offsets of a region cut a text into what is before it, its body and what is behind it. -/
structure Region.Divides (region : Region) (text : Text) : Prop where
  /-- Up to its start there is what is before it. -/
  start : Text.splitBytes? region.startOffset text =
    some (region.before, region.body ++ region.after)
  /-- From its end on there is what is behind it. -/
  stop : Text.splitBytes? region.stopOffset text =
    some (region.before ++ region.body, region.after)

/-- The offsets of a region cut the text with its body. -/
theorem Region.divides_withBody (region : Region) :
    region.Divides (region.withBody region.body) where
  start := by
    rw [withBody, List.append_assoc]
    exact Text.splitBytes?_append region.before _
  stop := by
    -- The offset of the end counts the body in.
    rw [withBody, stopOffset, startOffset, ← Text.byteSize_append]
    exact Text.splitBytes?_append (region.before ++ region.body) region.after

/-- A body that forms no marker with those around it is located where it was put, between what was
there before; and whatever is put there later is all that is left. -/
theorem locate_replaceRegion (located : locate text name = .ok region)
    (enclosed : EnclosedOnce name new) :
    ∃ replaced, replaceRegion text name new = .ok replaced ∧
      locate replaced name = .ok { region with body := new } ∧
      region.Divides text ∧ { region with body := new }.Divides replaced ∧
      ∀ later, replaceRegion replaced name later = replaceRegion text name later := by
  obtain ⟨ahead, rest, front, back, -, -⟩ := exists_of_locate located
  -- Of the text only the markers around the body matter, so its old body does not.
  have found : locate (region.withBody new) name = .ok { region with body := new } := by
    refine locate_withBody_of_outside located fun kind => ?_
    rw [front, back]
    exact enclosed.outside kind
  refine ⟨region.withBody new, replaceRegion_of_locate located, found, ?_, ?_, fun later => ?_⟩
  · -- A located region makes up the text, with the body that it has.
    have divides := region.divides_withBody
    rwa [withBody_of_locate located] at divides
  · exact Region.divides_withBody { region with body := new }
  · -- Both texts are the same around the body, which is all that later ones replace.
    rw [replaceRegion_of_locate found, replaceRegion_of_locate located]
    rfl

/-- A name whose start marker may overlap another one at the slash in its middle. -/
def doubledName : Text := "A:START */* NX:A"

/-- A text with two start markers of the name that overlap, and an end marker. -/
def overlappingText : Text :=
  "/* NX:A:START */* NX:A:START */* NX:A:START */ old /* NX:A:START */* NX:A:END */ rest"

/-- The region of the name in the text, which starts behind the first one of the two. -/
def overlappingRegion : Region where
  before := "/* NX:A:START */* NX:A:START */"
  body := "* NX:A:START */ old "
  after := "/* NX:A:START */* NX:A:END */ rest"

/-- A body that touches markers which overlap themselves is located and replaced. -/
theorem locate_replaceRegion_overlapping :
    locate overlappingText doubledName = .ok overlappingRegion ∧
      EnclosedOnce doubledName "*/ né /*" ∧
      ∃ replaced, replaceRegion overlappingText doubledName "*/ né /*" = .ok replaced ∧
        locate replaced doubledName = .ok { overlappingRegion with body := "*/ né /*" } := by
  have located : locate overlappingText doubledName = .ok overlappingRegion := rfl
  have enclosed : EnclosedOnce doubledName "*/ né /*" := by decide +kernel
  obtain ⟨replaced, put, found, -⟩ := locate_replaceRegion located enclosed
  exact ⟨located, enclosed, replaced, put, found⟩

end TokenGuard
