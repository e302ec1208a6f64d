import TokenGuard.Proofs.Marker.Comment
import TokenGuard.Proofs.Text.Cut

/-! What it takes to be located, and how the regions of a text fare when one body is replaced. -/

namespace TokenGuard

variable {text name before after : Text} {kind : MarkerKind} {region : Region}

/-- A marker is not empty. -/
theorem marker_length_pos (name : Text) (kind : MarkerKind) : 0 < (marker name kind).length := by
  have opening : 0 < ("/* NX:" : Text).length := by decide
  unfold marker
  simp only [List.length_append]
  omega

/-- The start marker of a name has two characters more than its end marker. -/
theorem length_marker_start (name : Text) :
    (marker name .start).length = (marker name .stop).length + 2 := by
  have labels : MarkerKind.start.label.length = MarkerKind.stop.label.length + 2 := rfl
  unfold marker
  simp only [List.length_append, labels]
  omega

/-- A marker opens a comment. -/
theorem exists_marker_eq_cons (name : Text) (kind : MarkerKind) :
    ∃ tail, marker name kind = '/' :: '*' :: tail := by
  have opening : ("/* NX:" : Text) = '/' :: '*' :: (" NX:" : Text) := rfl
  unfold marker
  simp only [opening, List.cons_append]
  exact ⟨_, rfl⟩

/-- A marker starts with a slash. -/
theorem head?_marker (name : Text) (kind : MarkerKind) : (marker name kind).head? = some '/' := by
  obtain ⟨tail, opened⟩ := exists_marker_eq_cons name kind
  rw [opened, List.head?_cons]

/-- A marker ends with a slash. -/
theorem getLast?_marker (name : Text) (kind : MarkerKind) :
    (marker name kind).getLast? = some '/' := by
  have closing : (" */" : Text) = (" *" : Text) ++ ['/'] := rfl
  unfold marker
  simp only [closing, ← List.append_assoc, List.getLast?_concat]

/-- A text is cut at a marker that does not occur again behind the cut. -/
theorem cutOnce_eq_ok_iff :
    cutOnce text name kind = .ok (before, after) ↔
      Text.cut? (marker name kind) text = some (before, after) ∧
        ¬ marker name kind <:+: after := by
  -- The cut is at the first occurrence, and the search goes on behind it.
  unfold cutOnce
  rw [← Text.occursIn_iff]
  cases Text.cut? (marker name kind) text with
  | none => simp
  | some sides =>
    -- Only with a second occurrence the marker is rejected.
    obtain ⟨left, right⟩ := sides
    by_cases again : Text.occursIn (marker name kind) right = true
    · simp only [again, if_true, reduceCtorEq, Option.some.injEq, Prod.mk.injEq, false_iff]
      rintro ⟨⟨-, rfl⟩, once⟩
      exact once again
    · simp only [again, Bool.false_eq_true, if_false, Except.ok.injEq, Option.some.injEq,
        Prod.mk.injEq, iff_self_and]
      rintro ⟨-, rfl⟩
      exact again

/-- The sides of a unique marker and the marker make up the text. -/
theorem eq_of_cutOnce (unique : cutOnce text name kind = .ok (before, after)) :
    text = before ++ marker name kind ++ after := by
  rw [cutOnce_eq_ok_iff] at unique
  exact Text.eq_of_cut? unique.1

/-- Every occurrence of a unique marker starts within the first one. -/
theorem bounds_of_cutOnce (unique : cutOnce text name kind = .ok (before, after))
    (left right : Text) (other : text = left ++ marker name kind ++ right) :
    before.length ≤ left.length ∧ left.length < before.length + (marker name kind).length := by
  have divided := eq_of_cutOnce unique
  rw [cutOnce_eq_ok_iff] at unique
  refine ⟨Text.length_le_of_cut? unique.1 other, Nat.lt_of_not_le fun late => ?_⟩
  -- An occurrence that starts later would be a second one behind the first.
  have first : before ++ marker name kind <+: text := ⟨after, divided.symm⟩
  have second : left <+: text := ⟨marker name kind ++ right, by simp [other]⟩
  have front : before ++ marker name kind <+: left :=
    List.prefix_of_prefix_length_le first second (by simpa using late)
  obtain ⟨gap, rfl⟩ := front
  have behind : after = gap ++ marker name kind ++ right := by
    simpa using divided.symm.trans other
  exact unique.2 ⟨gap, right, behind.symm⟩

/-- A marker is unique where it occurs if every occurrence of it starts within that one. -/
theorem cutOnce_of_bounds (divided : text = before ++ marker name kind ++ after)
    (bounds : ∀ left right, text = left ++ marker name kind ++ right →
      before.length ≤ left.length ∧ left.length < before.length + (marker name kind).length) :
    cutOnce text name kind = .ok (before, after) := by
  -- The first occurrence is where the text is cut, and none is left behind it.
  rw [cutOnce_eq_ok_iff, Text.cut?_eq_some_iff]
  refine ⟨⟨divided, fun left right other => (bounds left right other).1⟩, ?_⟩
  rintro ⟨gap, right, rfl⟩
  have late := (bounds (before ++ marker name kind ++ gap) right (by simp [divided])).2
  simp only [List.length_append] at late
  omega

/-- The markers of a located region are unique and enclose its body. -/
theorem exists_of_locate (located : locate text name = .ok region) :
    ∃ outside rest, region.before = outside ++ marker name .start ∧
      region.after = marker name .stop ++ rest ∧
      cutOnce text name .start = .ok (outside, region.body ++ region.after) ∧
      cutOnce text name .stop = .ok (region.before ++ region.body, rest) := by
  unfold locate at located
  -- Locating a region cuts out one marker and then the other, and compares where they stand.
  cases starts : cutOnce text name .start with
  | error cause => simp [starts, Bind.bind, Except.bind] at located
  | ok sides =>
    obtain ⟨outside, behind⟩ := sides
    cases stops : cutOnce text name .stop with
    | error cause => simp [starts, stops, Bind.bind, Except.bind] at located
    | ok sides =>
      obtain ⟨inside, rest⟩ := sides
      simp only [starts, stops, Bind.bind, Except.bind] at located
      split at located
      · cases located
      · next ordered =>
        -- The end marker starts behind the start marker, so the text before it holds the latter.
        have first := eq_of_cutOnce starts
        have second := eq_of_cutOnce stops
        have starting : outside ++ marker name .start <+: text := ⟨behind, first.symm⟩
        have ending : inside <+: text := ⟨marker name .stop ++ rest, by simp [second]⟩
        have front : outside ++ marker name .start <+: inside :=
          List.prefix_of_prefix_length_le starting ending (Nat.le_of_not_lt ordered)
        obtain ⟨body, rfl⟩ := front
        have enclosed : behind = body ++ (marker name .stop ++ rest) := by
          simpa using first.symm.trans second
        cases located
        exact ⟨outside, rest, rfl, rfl, by simp [enclosed], by simp⟩

/-- A region is located if its markers are unique and enclose its body. -/
theorem locate_of_cutOnce {outside rest : Text}
    (front : region.before = outside ++ marker name .start)
    (back : region.after = marker name .stop ++ rest)
    (starts : cutOnce text name .start = .ok (outside, region.body ++ region.after))
    (stops : cutOnce text name .stop = .ok (region.before ++ region.body, rest)) :
    locate text name = .ok region := by
  -- The region is made up of the two cuts again.
  obtain ⟨before, body, after⟩ := region
  simp only at front back starts stops
  subst front back
  simp [locate, starts, stops, Bind.bind, Except.bind, Pure.pure, Except.pure]

/-- A located region makes up the text. -/
theorem withBody_of_locate (located : locate text name = .ok region) :
    region.withBody region.body = text := by
  obtain ⟨outside, rest, front, -, starts, -⟩ := exists_of_locate located
  rw [eq_of_cutOnce starts, Region.withBody, front, List.append_assoc]

/-- What is before a located body ends with the slash of the start marker. -/
theorem getLast?_before_of_locate (located : locate text name = .ok region) :
    region.before.getLast? = some '/' := by
  obtain ⟨outside, -, front, -⟩ := exists_of_locate located
  simp [front, List.getLast?_append, getLast?_marker]

/-- What is behind a located body starts with the slash of the end marker. -/
theorem head?_after_of_locate (located : locate text name = .ok region) :
    region.after.head? = some '/' := by
  obtain ⟨-, rest, -, back, -⟩ := exists_of_locate located
  simp [back, List.head?_append, head?_marker]

/-- Both markers of a located region occur in the text. -/
theorem infix_of_locate (located : locate text name = .ok region) :
    marker name kind <:+: text := by
  obtain ⟨outside, rest, -, -, starts, stops⟩ := exists_of_locate located
  cases kind with
  | start => exact ⟨outside, _, (eq_of_cutOnce starts).symm⟩
  | stop => exact ⟨_, rest, (eq_of_cutOnce stops).symm⟩

/-- A region is not located any more if its start marker comes again behind the first one. -/
theorem locate_withBody_ne_ok {new : Text} {q : Region} (located : locate text name = .ok region)
    (again : marker name .start <:+: new ++ region.after) :
    locate (region.withBody new) name ≠ .ok q := by
  intro found
  obtain ⟨outside, -, front, -⟩ := exists_of_locate located
  obtain ⟨outside', -, -, -, starts, -⟩ := exists_of_locate found
  have once := bounds_of_cutOnce starts
  obtain ⟨left, right, divided⟩ := again
  -- The two occurrences are further apart than a unique marker allows.
  have first := once outside (new ++ region.after) (by simp [Region.withBody, front])
  have second := once (region.before ++ left) right (by simp [Region.withBody, ← divided])
  simp only [front, List.length_append] at first second
  omega

section Replacement

variable {front old new rear between other : Text}

section Outside

variable (outside : Outside (marker other kind) front new rear)

include outside

/-- A unique marker in front of a body stays where it is if the body is replaced by one that it
lies outside. -/
theorem cutOnce_of_front (between : Text)
    (unique : cutOnce (front ++ old ++ rear) other kind = .ok (before, after))
    (inside : front = before ++ marker other kind ++ between) :
    cutOnce (front ++ new ++ rear) other kind = .ok (before, between ++ new ++ rear) := by
  have once := bounds_of_cutOnce unique
  refine cutOnce_of_bounds (by simp [inside]) fun left right found => ?_
  -- Every occurrence in the new text is one of the old text, where none is behind the body.
  rcases outside left right found with ⟨gap, same⟩ | ⟨gap, rfl, same⟩
  · exact once left (gap ++ old ++ rear) (by simp [same])
  · -- In the old text it would start behind the body, long after the first occurrence.
    have late := (once (front ++ old ++ gap) right (by simp [same])).2
    simp only [inside, List.length_append] at late
    omega

/-- A unique marker behind a body moves with what is behind it if the body is replaced by one that
it lies outside. -/
theorem cutOnce_of_rear (between : Text)
    (unique : cutOnce (front ++ old ++ rear) other kind = .ok (front ++ old ++ between, after)) :
    cutOnce (front ++ new ++ rear) other kind = .ok (front ++ new ++ between, after) := by
  have divided := eq_of_cutOnce unique
  have once := bounds_of_cutOnce unique
  have rest : rear = between ++ marker other kind ++ after := by simpa using divided
  refine cutOnce_of_bounds (by simp [rest]) fun left right found => ?_
  -- Every occurrence in the new text is one of the old text, where none is before the body.
  rcases outside left right found with ⟨gap, same⟩ | ⟨gap, rfl, same⟩
  · -- In the old text it would start before the body, and so before the first occurrence.
    have early := (once left (gap ++ old ++ rear) (by simp [same])).1
    have positive := marker_length_pos other kind
    simp only [same, List.length_append] at early
    omega
  · -- Behind the body both occurrences have moved by the same number of characters.
    have bounds := once (front ++ old ++ gap) right (by simp [same])
    simp only [List.length_append] at bounds ⊢
    omega

end Outside

/-- A region whose markers lie outside another body is located with that body in its place. -/
theorem locate_withBody_of_outside (located : locate text name = .ok region)
    (outside : ∀ kind, Outside (marker name kind) region.before new region.after) :
    locate (region.withBody new) name = .ok { region with body := new } := by
  -- The text is taken as the region with its own body, so that both texts have one shape.
  have same := withBody_of_locate located
  obtain ⟨_, rest, front, back, starts, stops⟩ := exists_of_locate located
  rw [← same, Region.withBody] at starts stops
  -- Its own markers stand right beside the body.
  refine locate_of_cutOnce front back ?_ ?_
  · exact cutOnce_of_front (outside .start) [] starts (by simp [front])
  · have stops := cutOnce_of_rear (outside .stop) [] (by simpa using stops)
    simpa [Region.withBody] using stops

/-- The markers of a name without a slash lie outside an insulated body that has none of them. -/
theorem outside_of_locate (located : locate text name = .ok region) (insulated : Insulated new)
    (plain : '/' ∉ other) (clean : ∀ kind, ¬ marker other kind <:+: new) (kind : MarkerKind) :
    Outside (marker other kind) region.before new region.after :=
  (isComment_marker plain kind).outside insulated (clean kind) (getLast?_before_of_locate located)
    (head?_after_of_locate located)

variable {q : Region} (located : locate text name = .ok region) (insulated : Insulated new)

include located insulated

/-- A region whose body is replaced is located with the new body. -/
theorem locate_withBody_self (plain : '/' ∉ name) (clean : ∀ kind, ¬ marker name kind <:+: new) :
    locate (region.withBody new) name = .ok { region with body := new } :=
  locate_withBody_of_outside located (outside_of_locate located insulated plain clean)

variable (plain : '/' ∉ other) (clean : ∀ kind, ¬ marker other kind <:+: new)
  (found : locate text other = .ok q)

include plain clean found

/-- A region that ends before a replaced body keeps its place and its body. -/
theorem locate_withBody_of_precedes (between : Text)
    (precedes : region.before = q.before ++ q.body ++ marker other .stop ++ between) :
    locate (region.withBody new) other =
      .ok { q with after := marker other .stop ++ between ++ new ++ region.after } := by
  have outside := outside_of_locate located insulated plain clean
  have same := withBody_of_locate located
  obtain ⟨_, rest, front, back, starts, stops⟩ := exists_of_locate found
  rw [← same, Region.withBody] at starts stops
  -- Both markers stand in front of the replaced body.
  have ending : marker other .stop ++ between ++ new ++ region.after =
      marker other .stop ++ (between ++ new ++ region.after) := by simp
  refine locate_of_cutOnce front ending ?_ ?_
  · have starts := cutOnce_of_front (outside .start) (q.body ++ marker other .stop ++ between)
      starts (by simp [precedes, front])
    simpa [Region.withBody] using starts
  · exact cutOnce_of_front (outside .stop) between stops precedes

/-- A region that starts behind a replaced body moves as a whole. -/
theorem locate_withBody_of_follows (between : Text)
    (follows : q.before = region.before ++ region.body ++ between ++ marker other .start) :
    locate (region.withBody new) other =
      .ok { q with before := region.before ++ new ++ between ++ marker other .start } := by
  have outside := outside_of_locate located insulated plain clean
  have same := withBody_of_locate located
  obtain ⟨first, rest, front, back, starts, stops⟩ := exists_of_locate found
  have start : first = region.before ++ region.body ++ between :=
    (List.append_inj' (front.symm.trans follows) rfl).1
  rw [← same, Region.withBody] at starts stops
  -- Both markers stand behind the replaced body.
  refine locate_of_cutOnce rfl back ?_ ?_
  · exact cutOnce_of_rear (outside .start) between (start ▸ starts)
  · have stops := cutOnce_of_rear (outside .stop) (between ++ marker other .start ++ q.body)
      (by simpa [follows] using stops)
    simpa [Region.withBody] using stops

/-- A region around a replaced body is located where it was. -/
theorem locate_withBody_of_within {front back : Text} (precedes : region.before = q.before ++ front)
    (encloses : q.body = front ++ region.body ++ back) :
    locate (region.withBody new) other = .ok { q with body := front ++ new ++ back } := by
  have outside := outside_of_locate located insulated plain clean
  have same := withBody_of_locate located
  -- What is behind the inner region is the rest of the outer body and what is behind that.
  have follows : region.after = back ++ q.after := by
    have divided := same.trans (withBody_of_locate found).symm
    simpa [Region.withBody, precedes, encloses] using divided
  obtain ⟨_, rest, starting, ending, starts, stops⟩ := exists_of_locate found
  rw [← same, Region.withBody] at starts stops
  -- The start marker stands in front of the replaced body, and the end marker behind it.
  refine locate_of_cutOnce starting ending ?_ ?_
  · have starts := cutOnce_of_front (outside .start) front starts (by simp [precedes, starting])
    simpa [Region.withBody, follows] using starts
  · have stops := cutOnce_of_rear (outside .stop) back
      (by simpa [precedes, encloses] using stops)
    simpa [Region.withBody, precedes] using stops

end Replacement

end TokenGuard
