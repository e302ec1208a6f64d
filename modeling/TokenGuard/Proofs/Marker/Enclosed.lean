import TokenGuard.Proofs.Marker.Beside

/-! Replacing a body loses exactly the markers that stand between those of its own region; names
that are not enclosed are located before exactly if they are located behind. -/

namespace TokenGuard

variable {text left right left' right' x y front old new rear name other : Text}
  {region q : Region} {kind : MarkerKind}

/-- A comment has two characters at each end. -/
theorem IsComment.four_le_length (comment : IsComment x) : 4 ≤ x.length := by
  obtain ⟨inside, -, rfl⟩ := comment
  simp only [List.length_append, List.length_cons, List.length_nil]
  omega

/-- Two comments in one text are the same, share a slash, or lie apart. -/
theorem IsComment.same_or_touching_or_apart (comment : IsComment x) (later : IsComment y)
    (first : text = left ++ x ++ right) (second : text = left' ++ y ++ right')
    (order : left.length ≤ left'.length) :
    x = y ∨ left'.length + 1 = left.length + x.length ∨
      left.length + x.length ≤ left'.length := by
  -- Up to the start of the first comment both divisions read the same.
  have leading : left <+: left' := List.prefix_of_prefix_length_le
    ⟨x ++ right, by simpa using first.symm⟩ ⟨y ++ right', by simpa using second.symm⟩ order
  obtain ⟨more, rfl⟩ := leading
  have same : x ++ right = more ++ (y ++ right') := by
    simpa using first.symm.trans second
  rcases List.append_eq_append_iff.mp same with ⟨gap, rfl, -⟩ | ⟨gap, rfl, rest⟩
  · -- The second one starts behind the end of the first.
    right
    right
    simp only [List.length_append]
    omega
  · -- The second one starts in the first, and so at one of the slashes there.
    cases gap with
    | nil =>
      right
      right
      simp
    | cons d gap =>
      have slash : d = '/' := by
        obtain ⟨inside, -, rfl⟩ := later
        simpa using (congrArg List.head? rest).symm
      subst slash
      rcases comment.slash_at_end rfl with rfl | rfl
      · -- Comments with one start are pieces of one another.
        left
        rcases List.prefix_or_prefix_of_prefix (List.prefix_append ('/' :: gap) right)
          (rest ▸ List.prefix_append y right') with inside | inside
        · exact later.eq_of_piece comment inside.isInfix
        · exact (comment.eq_of_piece later inside.isInfix).symm
      · right
        left
        simp only [List.length_append, List.length_cons, List.length_nil]
        omega

/-- Markers of two names in one text share a slash or lie apart. -/
theorem touching_or_apart {kind' : MarkerKind} {first second : Nat} (plain : '/' ∉ name)
    (plain' : '/' ∉ other) (different : name ≠ other)
    (one : first ∈ Text.places (marker name kind) text)
    (two : second ∈ Text.places (marker other kind') text) (order : first ≤ second) :
    second + 1 = first + (marker name kind).length ∨
      first + (marker name kind).length ≤ second := by
  obtain ⟨left, right, divided, rfl⟩ := (Text.mem_places_iff (marker_ne_nil _ _)).mp one
  obtain ⟨left', right', divided', rfl⟩ := (Text.mem_places_iff (marker_ne_nil _ _)).mp two
  -- Both are comments, and they are not the same since their names differ.
  rcases (isComment_marker plain kind).same_or_touching_or_apart (isComment_marker plain' kind')
    divided divided' order with same | positions
  · exact absurd (marker_inj same).1 different
  · exact positions

/-- The two markers of a located region stand where its body starts and ends. -/
theorem exists_places_of_locate (located : locate text name = .ok region) :
    ∃ start, start ∈ Text.places (marker name .start) text ∧
      (region.before ++ region.body).length ∈ Text.places (marker name .stop) text ∧
      region.before.length = start + (marker name .start).length := by
  obtain ⟨outside, rest, opening, -, starts, stops⟩ := exists_of_locate located
  refine ⟨outside.length, ?_, ?_, by simp [opening]⟩
  · exact (Text.mem_places_iff (marker_ne_nil _ _)).mpr ⟨_, _, eq_of_cutOnce starts, rfl⟩
  · exact (Text.mem_places_iff (marker_ne_nil _ _)).mpr ⟨_, _, eq_of_cutOnce stops, rfl⟩

/-- Two occurrences of a marker of a located name overlap. -/
theorem overlap_of_locate {first second : Nat} (located : locate text name = .ok region)
    (one : first ∈ Text.places (marker name kind) text)
    (two : second ∈ Text.places (marker name kind) text) :
    first < second + (marker name kind).length := by
  obtain ⟨left, right, divided, rfl⟩ := (Text.mem_places_iff (marker_ne_nil _ _)).mp one
  obtain ⟨left', right', divided', rfl⟩ := (Text.mem_places_iff (marker_ne_nil _ _)).mp two
  obtain ⟨_, _, -, -, starts, stops⟩ := exists_of_locate located
  -- Both start within the first occurrence of their kind.
  cases kind with
  | start =>
    have here := bounds_of_cutOnce starts left right divided
    have there := bounds_of_cutOnce starts left' right' divided'
    omega
  | stop =>
    have here := bounds_of_cutOnce stops left right divided
    have there := bounds_of_cutOnce stops left' right' divided'
    omega

/-- The markers of a name that a region does not enclose lie outside its body. -/
theorem outside_of_not_encloses (located : locate text name = .ok region) (plain : '/' ∉ name)
    (plain' : '/' ∉ other) (different : name ≠ other) (free : ¬ Encloses text name other)
    (kind : MarkerKind) : Outside (marker other kind) region.before region.body region.after := by
  intro left right found
  have whole : region.before ++ region.body ++ region.after = text := withBody_of_locate located
  have divided : text = left ++ marker other kind ++ right := whole.symm.trans found
  have here : left.length ∈ Text.places (marker other kind) text :=
    (Text.mem_places_iff (marker_ne_nil _ _)).mpr ⟨left, right, divided, rfl⟩
  obtain ⟨start, starts, stops, size⟩ := exists_places_of_locate located
  -- The marker does not start between the two markers of the region.
  have beside : left.length ≤ start ∨ (region.before ++ region.body).length ≤ left.length := by
    rcases Nat.lt_or_ge start left.length with after | early
    · rcases Nat.lt_or_ge left.length (region.before ++ region.body).length with before | late
      · -- Between the two it would be enclosed.
        refine absurd ⟨start, starts, _, stops, left.length, ?_, after, before⟩ free
        cases kind with
        | start => exact List.mem_append_left _ here
        | stop => exact List.mem_append_right _ here
      · exact .inr late
    · exact .inl early
  rcases beside with early | late
  · -- Starting before the start marker it ends at the slash that closes this one, or sooner.
    left
    have ends := touching_or_apart plain' plain different.symm here starts early
    have room := (isComment_marker plain .start).four_le_length
    have within : left ++ marker other kind <+: region.before := by
      refine List.prefix_of_prefix_length_le ⟨right, divided.symm⟩
        ⟨region.body ++ region.after, by simp [← whole]⟩ ?_
      rw [List.length_append]
      omega
    obtain ⟨between, same⟩ := within
    exact ⟨between, same.symm⟩
  · -- What starts at the end marker or behind it starts behind the body.
    right
    have behind : region.before ++ region.body <+: left :=
      List.prefix_of_prefix_length_le ⟨region.after, whole⟩
        ⟨marker other kind ++ right, by simp [divided]⟩ late
    obtain ⟨between, rfl⟩ := behind
    refine ⟨between, rfl, ?_⟩
    simpa using found

/-- A name whose markers lie outside a body is located whatever the body is. -/
theorem exists_locate_of_outside (outside : ∀ kind, Outside (marker name kind) front old rear)
    (outside' : ∀ kind, Outside (marker name kind) front new rear)
    (located : locate (front ++ old ++ rear) name = .ok region) :
    ∃ moved, locate (front ++ new ++ rear) name = .ok moved := by
  obtain ⟨first, rest, opening, closing, starts, stops⟩ := exists_of_locate located
  have positive := marker_length_pos name .start
  -- The body may stand behind both markers, between them, or before them.
  rcases outside .start _ _ (eq_of_cutOnce starts) with
    ⟨between, inFront⟩ | ⟨between, behind, inRear⟩
  · have starts' := cutOnce_of_front (outside' .start) between starts inFront
    rcases outside .stop _ _ (eq_of_cutOnce stops) with ⟨gap, before⟩ | ⟨gap, around, -⟩
    · -- Both markers stand before the body.
      have stops' := cutOnce_of_front (outside' .stop) gap stops before
      refine ⟨⟨region.before, region.body, marker name .stop ++ (gap ++ new ++ rear)⟩,
        locate_of_cutOnce opening rfl ?_ stops'⟩
      have same : between = region.body ++ marker name .stop ++ gap := by
        have both := inFront.symm.trans before
        simpa [opening] using both
      simpa [same] using starts'
    · -- The body lies between the two markers.
      have stops' := cutOnce_of_rear (outside' .stop) gap (around ▸ stops)
      refine ⟨⟨region.before, between ++ new ++ gap, marker name .stop ++ rest⟩,
        locate_of_cutOnce opening rfl ?_ ?_⟩
      · have same : rear = gap ++ marker name .stop ++ rest := by
          have divided := eq_of_cutOnce stops
          simpa [around] using divided
        simpa [same] using starts'
      · simpa [opening, inFront] using stops'
  · have starts' := cutOnce_of_rear (outside' .start) between (behind ▸ starts)
    rcases outside .stop _ _ (eq_of_cutOnce stops) with ⟨gap, before⟩ | ⟨gap, around, -⟩
    · -- The end marker does not come before the start marker.
      have lengths := congrArg List.length before
      simp only [opening, behind, List.length_append] at lengths
      omega
    · -- Both markers stand behind the body.
      have stops' := cutOnce_of_rear (outside' .stop) gap (around ▸ stops)
      refine ⟨⟨front ++ new ++ between ++ marker name .start, region.body, region.after⟩,
        locate_of_cutOnce rfl closing starts' ?_⟩
      have same : gap = between ++ marker name .start ++ region.body := by
        simpa [opening, behind] using around.symm
      simpa [same] using stops'

section Lost

variable (located : locate text name = .ok region) (found : locate text other = .ok q)
  (plain : '/' ∉ name) (plain' : '/' ∉ other) (different : name ≠ other)

include located found plain plain' different

/-- If a region encloses a marker of a name that is located, every marker of the kind reaches behind
its start marker and starts before its end marker. -/
theorem bounds_of_encloses {first last place place' : Nat}
    (starts : first ∈ Text.places (marker name .start) text)
    (stops : last ∈ Text.places (marker name .stop) text)
    (inside : place ∈ Text.places (marker other kind) text) (low : first < place)
    (high : place < last) (again : place' ∈ Text.places (marker other kind) text) :
    region.before.length < place' + (marker other kind).length ∧
      place' < (region.before ++ region.body).length := by
  obtain ⟨start, starting, ending, size⟩ := exists_places_of_locate located
  have room := (isComment_marker plain .start).four_le_length
  have room' := (isComment_marker plain .stop).four_le_length
  have room'' := (isComment_marker plain' kind).four_le_length
  -- All occurrences of one marker overlap.
  have spread := overlap_of_locate found inside again
  have spread' := overlap_of_locate found again inside
  have opens := overlap_of_locate located starting starts
  have closes := overlap_of_locate located stops ending
  -- Occurrences of different markers touch at most.
  have outer := touching_or_apart plain plain' different starts inside (Nat.le_of_lt low)
  have startFirst := touching_or_apart plain plain' different starting again
  have startLast := touching_or_apart plain' plain different.symm again starting
  have hereFirst := touching_or_apart plain' plain different.symm inside starting
  have stopHere := touching_or_apart plain plain' different ending inside
  have hereStop := touching_or_apart plain' plain different.symm inside ending
  have stopThere := touching_or_apart plain plain' different ending again
  constructor
  · -- Before the region there is no room for what overlaps a marker that starts behind `first`.
    omega
  · -- Nor is there behind it for what overlaps a marker that starts before `last`.
    omega

/-- A name with a marker that is enclosed loses it with the body around it. -/
theorem exists_not_infix_of_encloses (insulated : Insulated new)
    (clean : ∀ kind, ¬ marker other kind <:+: new) (encloses : Encloses text name other) :
    ∃ kind, ¬ marker other kind <:+: region.withBody new := by
  obtain ⟨first, starts, last, stops, place, member, low, high⟩ := encloses
  -- The enclosed marker is of one of the two kinds.
  have enclosed : ∃ kind, place ∈ Text.places (marker other kind) text := by
    rcases List.mem_append.mp member with inStarts | inStops
    · exact ⟨.start, inStarts⟩
    · exact ⟨.stop, inStops⟩
  obtain ⟨kind, inside⟩ := enclosed
  refine ⟨kind, ?_⟩
  rintro ⟨left, right, divided⟩
  -- What is left of the kind would lie outside the new body, and so outside the old one.
  obtain ⟨place', again, moved⟩ := exists_place_of_withBody located insulated plain' clean
    ((Text.mem_places_iff (marker_ne_nil _ _)).mpr ⟨left, right, divided.symm, rfl⟩)
  have within := bounds_of_encloses located found plain plain' different starts stops inside low
    high again
  rw [List.length_append] at within
  omega

end Lost

end TokenGuard
