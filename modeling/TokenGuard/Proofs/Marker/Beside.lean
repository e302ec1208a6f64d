import TokenGuard.Proofs.Marker.Locate

/-! Regions side by side: each is found again when the other one's body is replaced, and it does
not matter which of the two bodies is replaced first. -/

namespace TokenGuard

variable {text name other : Text} {region q : Region} {kind kind' : MarkerKind}

/-- A marker tells its name and its kind. -/
theorem marker_inj (same : marker name kind = marker other kind') :
    name = other ∧ kind = kind' := by
  -- All markers have the same ends, so the names and labels between them are the same.
  unfold marker at same
  generalize ("/* NX:" : Text) = opening, (" */" : Text) = closing, (":" : Text) = colon at same
  have inner : (name ++ colon) ++ kind.label = (other ++ colon) ++ kind'.label := by
    have behind := List.append_cancel_right same
    simp only [List.append_assoc] at behind ⊢
    exact List.append_cancel_left behind
  -- The labels differ in their last letters.
  have ending : ∀ (front : Text) (kind : MarkerKind),
      (front ++ kind.label).getLast? = kind.label.getLast? := by
    intro front kind
    rw [List.getLast?_append, Option.or_of_isSome (by cases kind <;> decide)]
  -- The name and the colon in front of a label do not change its last letter.
  have last : kind.label.getLast? = kind'.label.getLast? := by
    rw [← ending (name ++ colon) kind, inner, ending]
  have kinds : kind = kind' := by
    cases kind <;> cases kind'
    · rfl
    · exact absurd last (by decide)
    · exact absurd last (by decide)
    · rfl
  subst kinds
  exact ⟨List.append_cancel_right (List.append_cancel_right inner), rfl⟩

/-- A marker that is a piece of a marker is that marker. -/
theorem marker_eq_of_piece (plain : '/' ∉ name) (plain' : '/' ∉ other)
    (piece : marker other kind' <:+: marker name kind) : other = name ∧ kind' = kind :=
  marker_inj ((isComment_marker plain kind).eq_of_piece (isComment_marker plain' kind') piece)

/-- A marker has a character. -/
theorem marker_ne_nil (name : Text) (kind : MarkerKind) : marker name kind ≠ [] :=
  List.ne_nil_of_length_pos (marker_length_pos name kind)

/-- A marker of one name starts between the places of a start marker and an end marker of
another. -/
def Encloses (text outer inner : Text) : Prop :=
  ∃ first ∈ Text.places (marker outer .start) text,
    ∃ last ∈ Text.places (marker outer .stop) text,
      ∃ place ∈ Text.places (marker inner .start) text ++ Text.places (marker inner .stop) text,
        first < place ∧ place < last

instance (text outer inner : Text) : Decidable (Encloses text outer inner) :=
  inferInstanceAs (Decidable (∃ first ∈ _, ∃ last ∈ _, ∃ place ∈ _, _))

/-- The end marker of the first region and the start marker of the second one stand between the
two bodies. -/
def Region.Before (region q : Region) (name other : Text) : Prop :=
  ∃ between, q.before = region.before ++ region.body ++ between ∧
    marker name .stop <+: between ∧ marker other .start <:+ between

/-- The body of the first region lies in that of the second one. -/
def Region.Within (region q : Region) : Prop :=
  ∃ front back, region.before = q.before ++ front ∧ q.body = front ++ region.body ++ back

section Arrangement

variable (located : locate text name = .ok region) (found : locate text other = .ok q)
  (plain : '/' ∉ name) (plain' : '/' ∉ other)

include located found plain plain'

/-- A region whose body forms no marker is beside any other region or lies in it. -/
theorem before_or_before_or_within (insulated : Insulated region.body)
    (clean : ∀ kind, ¬ marker other kind <:+: region.body) :
    region.Before q name other ∨ q.Before region other name ∨ region.Within q := by
  have closed := getLast?_before_of_locate located
  have opened := head?_after_of_locate located
  have whole : region.before ++ region.body ++ region.after = text := withBody_of_locate located
  obtain ⟨outside, rest, front, back, -, -⟩ := exists_of_locate located
  obtain ⟨outside', rest', front', back', starts, stops⟩ := exists_of_locate found
  have starts := eq_of_cutOnce starts
  have stops := eq_of_cutOnce stops
  -- Both markers of the other region lie before the body or behind it.
  rcases (isComment_marker plain' .start).outside insulated (clean .start) closed opened
    _ _ (whole.trans starts) with ⟨gap, inFront⟩ | ⟨gap, behind, inRear⟩
  · rcases (isComment_marker plain' .stop).outside insulated (clean .stop) closed opened
      _ _ (whole.trans stops) with ⟨rest', ending⟩ | ⟨rest', ending, -⟩
    · -- The other region ends before the start marker of this one starts.
      refine .inr (.inl ⟨marker other .stop ++ rest', by simp [ending], List.prefix_append _ _, ?_⟩)
      have divided : outside ++ marker name .start =
          (q.before ++ q.body) ++ (marker other .stop ++ rest') := by
        rw [← front, ending, List.append_assoc]
      rcases List.suffix_or_suffix_of_suffix (List.suffix_append outside (marker name .start))
        (divided ▸ List.suffix_append (q.before ++ q.body) (marker other .stop ++ rest')) with
        inside | across
      · exact inside
      · have piece := (List.prefix_append (marker other .stop) rest').isInfix.trans across.isInfix
        exact absurd (marker_eq_of_piece plain plain' piece).2 (by simp)
    · -- The other region starts before this one and ends behind it.
      rw [← front'] at inFront
      refine .inr (.inr ⟨gap, rest', inFront, ?_⟩)
      rw [inFront] at ending
      simpa using ending
  · -- The other region starts behind the end marker of this one.
    refine .inl ⟨gap ++ marker other .start, by simp [front', behind], ?_,
      List.suffix_append _ _⟩
    rw [back] at inRear
    rcases List.prefix_or_prefix_of_prefix (List.prefix_append (marker name .stop) rest)
      (inRear ▸ List.prefix_append (gap ++ marker other .start) (q.body ++ q.after)) with
      inside | across
    · exact inside
    · have piece := (List.suffix_append gap (marker other .start)).isInfix.trans across.isInfix
      exact absurd (marker_eq_of_piece plain plain' piece).2 (by simp)

variable (different : name ≠ other) (within : region.Within q)

include different within

omit located found in
/-- The start marker of a region that lies in another one starts behind that of the other one. -/
private theorem start_lt_of_within {outside outside' : Text}
    (front : region.before = outside ++ marker name .start)
    (front' : q.before = outside' ++ marker other .start) : outside'.length < outside.length := by
  obtain ⟨gap, -, inFront, -⟩ := within
  rw [front, front', List.append_assoc] at inFront
  refine Nat.lt_of_not_le fun late => ?_
  -- Otherwise it would have the other one's as a piece.
  have leading : outside <+: outside' := List.prefix_of_prefix_length_le
    (List.prefix_append outside (marker name .start)) (inFront ▸ List.prefix_append outside' _) late
  obtain ⟨more, rfl⟩ := leading
  have marked : marker name .start = more ++ marker other .start ++ gap := by simpa using inFront
  exact different (marker_eq_of_piece plain plain' ⟨more, gap, marked.symm⟩).1.symm

/-- A name whose region lies in that of another one is enclosed by it. -/
theorem encloses_of_within : Encloses text other name := by
  obtain ⟨outside, rest, front, -, starting, -⟩ := exists_of_locate located
  obtain ⟨outside', rest', front', -, starts, stops⟩ := exists_of_locate found
  have first := start_lt_of_within plain plain' different within front front'
  obtain ⟨gap, back, inFront, inside⟩ := within
  have last : outside.length < (q.before ++ q.body).length := by
    have positive := marker_length_pos name .start
    have lengths := congrArg List.length (front.symm.trans inFront)
    simp only [inside, List.length_append] at lengths ⊢
    omega
  -- The start marker of the inner region is the one between the two others.
  refine ⟨_, (Text.mem_places_iff (marker_ne_nil _ _)).mpr
      ⟨outside', _, eq_of_cutOnce starts, rfl⟩,
    _, (Text.mem_places_iff (marker_ne_nil _ _)).mpr ⟨_, _, eq_of_cutOnce stops, rfl⟩,
    outside.length, List.mem_append_left _ ?_, first, last⟩
  exact (Text.mem_places_iff (marker_ne_nil _ _)).mpr ⟨outside, _, eq_of_cutOnce starting, rfl⟩

/-- A name whose region lies in that of another one is lost with the body around it. -/
theorem not_infix_of_within {new : Text} (insulated : Insulated new)
    (clean : ∀ kind, ¬ marker name kind <:+: new) :
    ¬ marker name .start <:+: q.withBody new := by
  obtain ⟨outside, rest, front, -, starting, -⟩ := exists_of_locate located
  obtain ⟨outside', rest', front', -, -, -⟩ := exists_of_locate found
  have first := start_lt_of_within plain plain' different within front front'
  have whole : q.before ++ q.body ++ q.after = text := withBody_of_locate found
  have once := bounds_of_cutOnce starting
  rintro ⟨left, right, divided⟩
  -- What is before or behind the new body was there before, but the marker was in the old body.
  rcases (isComment_marker plain .start).outside insulated (clean .start)
    (getLast?_before_of_locate found) (head?_after_of_locate found) _ _ divided.symm with
    ⟨between, same⟩ | ⟨between, rfl, same⟩
  · have late := (once left (between ++ q.body ++ q.after) (by simp [← whole, same])).1
    rw [front', List.append_assoc] at same
    have leading : outside' <+: left := List.prefix_of_prefix_length_le
      (List.prefix_append outside' (marker other .start))
      (same ▸ List.prefix_append left _) (by omega)
    obtain ⟨more, rfl⟩ := leading
    have marked : marker other .start = more ++ marker name .start ++ between := by
      simpa using same
    exact different (marker_eq_of_piece plain' plain ⟨more, between, marked.symm⟩).1
  · have early := (once (q.before ++ q.body ++ between) right (by simp [← whole, same])).2
    obtain ⟨gap, back, inFront, inside⟩ := within
    have lengths := congrArg List.length (front.symm.trans inFront)
    simp only [inside, List.length_append] at early lengths
    omega

end Arrangement

section Outside

variable {front new rear inner : Text} (old : Text)

/-- A marker that is found outside a body is there whatever the body is, and the places of markers
keep their order. -/
theorem exists_place_of_outside (outside : Outside (marker other kind) front new rear) {place : Nat}
    (found : place ∈ Text.places (marker other kind) (front ++ new ++ rear)) :
    ∃ old' ∈ Text.places (marker other kind) (front ++ old ++ rear),
      (place + (marker other kind).length ≤ front.length ∧ old' = place) ∨
        (front.length + new.length ≤ place ∧ old' + new.length = place + old.length) := by
  obtain ⟨left, right, divided, rfl⟩ := (Text.mem_places_iff (marker_ne_nil _ _)).mp found
  -- It lies before the body or behind it, where the text is the same.
  rcases outside left right divided with ⟨between, same⟩ | ⟨between, rfl, same⟩
  · refine ⟨left.length, (Text.mem_places_iff (marker_ne_nil _ _)).mpr
      ⟨left, between ++ old ++ rear, by simp [same], rfl⟩, .inl ⟨?_, rfl⟩⟩
    rw [same]
    simp only [List.length_append]
    omega
  · refine ⟨(front ++ old ++ between).length,
      (Text.mem_places_iff (marker_ne_nil _ _)).mpr ⟨_, right, by simp [same], rfl⟩, .inr ⟨?_, ?_⟩⟩
    all_goals
      simp only [List.length_append]
      omega

/-- Whether one name encloses another does not depend on a body outside which all their markers
lie. -/
theorem encloses_of_outside (outer : ∀ kind, Outside (marker other kind) front new rear)
    (ofInner : ∀ kind, Outside (marker inner kind) front new rear)
    (encloses : Encloses (front ++ new ++ rear) other inner) :
    Encloses (front ++ old ++ rear) other inner := by
  obtain ⟨first, starts, last, stops, place, within, low, high⟩ := encloses
  obtain ⟨first', starts', ofFirst⟩ := exists_place_of_outside old (outer .start) starts
  obtain ⟨last', stops', ofLast⟩ := exists_place_of_outside old (outer .stop) stops
  -- The three places have moved without passing one another.
  have positive := marker_length_pos other .start
  rcases List.mem_append.mp within with inStarts | inStops
  · obtain ⟨place', within', ofPlace⟩ :=
      exists_place_of_outside old (ofInner .start) inStarts
    have positive' := marker_length_pos inner .start
    exact ⟨first', starts', last', stops', place', List.mem_append_left _ within', by omega,
      by omega⟩
  · obtain ⟨place', within', ofPlace⟩ :=
      exists_place_of_outside old (ofInner .stop) inStops
    have positive' := marker_length_pos inner .stop
    exact ⟨first', starts', last', stops', place', List.mem_append_right _ within', by omega,
      by omega⟩

end Outside

section Replacement

variable {new : Text} (located : locate text name = .ok region) (insulated : Insulated new)
  (plain : '/' ∉ other) (clean : ∀ kind, ¬ marker other kind <:+: new)

include located insulated plain clean

/-- A marker that is found after a body was replaced was there before, and the places of markers
keep their order. -/
theorem exists_place_of_withBody {place : Nat}
    (found : place ∈ Text.places (marker other kind) (region.withBody new)) :
    ∃ old ∈ Text.places (marker other kind) text,
      (place + (marker other kind).length ≤ region.before.length ∧ old = place) ∨
        (region.before.length + new.length ≤ place ∧
          old + new.length = place + region.body.length) := by
  rw [← withBody_of_locate located]
  exact exists_place_of_outside _ (outside_of_locate located insulated plain clean kind) found

/-- A marker that occurs after a body was replaced occurred before. -/
theorem infix_of_withBody (occurs : marker other kind <:+: region.withBody new) :
    marker other kind <:+: text := by
  -- An occurrence has a place, which has moved at most.
  obtain ⟨left, right, divided⟩ := occurs
  obtain ⟨old, found, -⟩ := exists_place_of_withBody located insulated plain clean
    ((Text.mem_places_iff (marker_ne_nil _ _)).mpr ⟨left, right, divided.symm, rfl⟩)
  obtain ⟨left, right, rfl, -⟩ := (Text.mem_places_iff (marker_ne_nil _ _)).mp found
  exact ⟨left, right, rfl⟩

/-- Replacing a body does not make one name enclose another. -/
theorem encloses_of_withBody {inner : Text} (plain' : '/' ∉ inner)
    (clean' : ∀ kind, ¬ marker inner kind <:+: new)
    (encloses : Encloses (region.withBody new) other inner) : Encloses text other inner := by
  -- Both names have their markers outside the new body.
  rw [← withBody_of_locate located]
  exact encloses_of_outside _ (outside_of_locate located insulated plain clean)
    (outside_of_locate located insulated plain' clean') encloses

variable (found : locate text other = .ok q)

include found

/-- A region behind a replaced body is located with the same body. -/
theorem locate_withBody_of_before {between : Text}
    (follows : q.before = region.before ++ region.body ++ between)
    (opens : marker other .start <:+ between) :
    locate (region.withBody new) other =
      .ok { q with before := region.before ++ new ++ between } := by
  obtain ⟨gap, rfl⟩ := opens
  simpa using locate_withBody_of_follows located insulated plain clean found gap (by simp [follows])

/-- A region before a replaced body is located with the same body. -/
theorem locate_withBody_of_behind {between : Text}
    (precedes : region.before = q.before ++ q.body ++ between)
    (closes : marker other .stop <+: between) :
    locate (region.withBody new) other =
      .ok { q with after := between ++ new ++ region.after } := by
  obtain ⟨gap, rfl⟩ := closes
  simpa using locate_withBody_of_precedes located insulated plain clean found gap
    (by simp [precedes])

/-- A region beside a replaced body keeps its own body. -/
theorem exists_locate_withBody
    (beside : region.Before q name other ∨ q.Before region other name) :
    ∃ moved, locate (region.withBody new) other = .ok moved ∧ moved.body = q.body := by
  rcases beside with ⟨between, follows, -, opens⟩ | ⟨between, precedes, closes, -⟩
  · exact ⟨_, locate_withBody_of_before located insulated plain clean found follows opens, rfl⟩
  · exact ⟨_, locate_withBody_of_behind located insulated plain clean found precedes closes, rfl⟩

end Replacement

/-- Replacing the body of a located region succeeds. -/
theorem replaceRegion_of_locate {new : Text} (located : locate text name = .ok region) :
    replaceRegion text name new = .ok (region.withBody new) := by
  simp [replaceRegion, located, Bind.bind, Except.bind, Pure.pure, Except.pure]

/-- Bodies of regions side by side may be replaced in either order. -/
theorem replaceRegion_comm {x y : Text} (located : locate text name = .ok region)
    (found : locate text other = .ok q) (before : region.Before q name other)
    (plain : '/' ∉ name) (plain' : '/' ∉ other) (insulated : Insulated x) (insulated' : Insulated y)
    (clean : ∀ kind, ¬ marker other kind <:+: x) (clean' : ∀ kind, ¬ marker name kind <:+: y) :
    ∃ both, replaceRegion (region.withBody x) other y = .ok both ∧
      replaceRegion (q.withBody y) name x = .ok both := by
  obtain ⟨between, follows, closes, opens⟩ := before
  -- Either way the text is what is before the first body, between the two and behind the second.
  refine ⟨region.before ++ x ++ between ++ y ++ q.after, ?_, ?_⟩
  · have moved := locate_withBody_of_before located insulated plain' clean found follows opens
    rw [replaceRegion_of_locate moved]
    rfl
  · have moved := locate_withBody_of_behind found insulated' plain clean' located follows closes
    rw [replaceRegion_of_locate moved]
    simp [Region.withBody]

end TokenGuard
