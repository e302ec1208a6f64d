import TokenGuard.Proofs.Regex.Advance

/-! The search of a program through a text: what it finds is a match, none starts before it, and it
finds one if there is any. -/

namespace TokenGuard.Regex.Program

open Text (lastOr lastOr_append lastOr_cons)

variable {program : Program} {before previous next : Option Char} {read text rest : Text}
  {ways : List Way} {way : Way} {c : Char} {best : Option Match} {found : Match}
  {position start : Nat}

/-- The frontier makes up no way. -/
theorem frontier_sound {good : Way → Prop}
    (passes : ∀ way after, good way → program.Leads previous next way.place after →
      good { way with place := after })
    (goodWays : ∀ way ∈ ways, good way) :
    (∀ way ∈ (program.frontier previous next ways).waiting, good way ∧ program.Waits way) ∧
    ∀ start, (program.frontier previous next ways).matched = some start →
      ∃ way, good way ∧ way.start = start ∧ program.code[way.place]? = some .accept :=
  advance_sound passes goodWays fun _ member => absurd member List.not_mem_nil

/-- The ways that are left at a position wait for a character. -/
theorem frontier_waits (member : way ∈ (program.frontier previous next ways).waiting) :
    program.Waits way := by
  have any : ∀ way ∈ ways, (fun _ : Way => True) way := fun _ _ => trivial
  exact ((frontier_sound (fun _ _ _ _ => trivial) any).1 way member).2

/-- The frontier keeps the ranking, and a match started no earlier than the ways that wait. -/
theorem frontier_ranked (program : Program) (previous next : Option Char)
    (ranked : Ranked ways) :
    Ranked (program.frontier previous next ways).waiting.reverse ∧
      ∀ start, (program.frontier previous next ways).matched = some start →
        ∀ way ∈ (program.frontier previous next ways).waiting, way.start ≤ start :=
  advance_ranked ranked

/-- The frontier loses no way that finishes: there is a match or a way that waits, which started no
later. -/
theorem frontier_complete (ranked : Ranked ways) (member : way ∈ ways) {steps : Nat}
    (finishes : program.Finishes steps way.place previous text) :
    (∃ early ≤ way.start, (program.frontier previous text.head? ways).matched = some early) ∨
    ∃ other ∈ (program.frontier previous text.head? ways).waiting, other.start ≤ way.start ∧
      ∃ steps, program.Finishes steps other.place previous text := by
  -- Before the first step no place of the program is visited.
  refine advance_complete ⟨fun place isVisited => ?_, ranked, ?_⟩
    (.inr ⟨way, member, Nat.le_refl _, steps, Nat.lt_succ_self _, finishes⟩)
  · refine ⟨0, fun _ _ => Nat.zero_le _, fun steps finishes => ?_⟩
    obtain ⟨instruction, here⟩ := exists_instruction_of_finishes finishes
    obtain ⟨within, -⟩ := Array.getElem?_eq_some_iff.mp here
    simp [Array.getD_eq_getD_getElem?, within] at isVisited
  · rw [Array.count_replicate_self]
    exact Nat.lt_succ_self _

/-- The ways at a position, with one that starts there as long as nothing has been found. -/
def waysAt (program : Program) (ways : List Way) (position : Nat) (best : Option Match) :
    List Way :=
  if best.isNone then ways ++ [⟨program.entry, position⟩] else ways

/-- The best match once the ways at a position have been followed. -/
def bestAt (program : Program) (previous next : Option Char) (ways : List Way) (position : Nat)
    (best : Option Match) : Option Match :=
  ((program.frontier previous next ways).matched.map fun start => ⟨start, position - start⟩).or
    best

/-- The ways behind a character. -/
def waysBehind (program : Program) (previous : Option Char) (c : Char) (ways : List Way) :
    List Way :=
  (program.frontier previous (some c) ways).waiting.reverse.filterMap (Way.after? program c)

/-- The search ends at the end of a text. -/
theorem run_nil (ways : List Way) (best : Option Match) :
    program.run ways previous position best [] =
      program.bestAt previous none (program.waysAt ways position best) position best := rfl

/-- The search ends with a match that no way can better, or it goes on behind a character. -/
theorem run_cons (ways : List Way) (best : Option Match) :
    program.run ways previous position best (c :: rest) =
      let ways := program.waysAt ways position best
      let best := program.bestAt previous (some c) ways position best
      let behind := program.waysBehind previous c ways
      if behind.isEmpty && best.isSome then best
      else program.run behind (some c) (position + 1) best rest := rfl

/-- A way behind a character started where the way did that took it. -/
theorem after?_eq_some_iff {led : Way} : way.after? program c = some led ↔
    led.start = way.start ∧
      ∃ set, program.code[way.place]? = some (.take set led.place) ∧ set c = true := by
  rw [Way.after?]
  constructor
  · intro isLed
    split at isLed
    · next set after here =>
      split at isLed
      · next inSet =>
        obtain rfl := Option.some.inj isLed
        exact ⟨rfl, set, here, inSet⟩
      · cases isLed
    · cases isLed
  · rintro ⟨same, set, here, inSet⟩
    rw [here]
    simp [inSet, ← same]

/-- A way behind a character comes from a way that waits for it. -/
theorem mem_waysBehind_iff {led : Way} : led ∈ program.waysBehind previous c ways ↔
    ∃ way ∈ (program.frontier previous (some c) ways).waiting, led.start = way.start ∧
      ∃ set, program.code[way.place]? = some (.take set led.place) ∧ set c = true := by
  simp only [waysBehind, List.mem_filterMap, List.mem_reverse, after?_eq_some_iff]

section Soundness

/-- A match stands in a text behind a character. -/
def FoundIn (program : Program) (before : Option Char) (text : Text) (found : Match) : Prop :=
  ∃ left piece right, text = left ++ (piece ++ right) ∧ found.start = left.length ∧
    found.length = piece.length ∧ program.Matches (lastOr before left) piece right.head?

/-- Whatever a way still takes ends a match that started where the way did. -/
def Begun (program : Program) (before : Option Char) (read text : Text) (way : Way) : Prop :=
  way.start ≤ read.length ∧ ∀ taken rest, text = taken ++ rest → ∀ steps,
    Accepts program.code steps way.place (lastOr before read) taken rest.head? →
      program.Matches (lastOr before (read.take way.start)) (read.drop way.start ++ taken)
        rest.head?

/-- A match is begun at every position. -/
theorem begun_entry (before : Option Char) (read text : Text) :
    program.Begun before read text ⟨program.entry, read.length⟩ := by
  refine ⟨Nat.le_refl _, fun taken rest _ steps accepted => ?_⟩
  simpa using ⟨steps, accepted⟩

/-- The way that may start at a position has begun a match as the others have. -/
theorem begun_waysAt (begun : ∀ way ∈ ways, program.Begun before read text way)
    (best : Option Match) :
    ∀ way ∈ program.waysAt ways read.length best, program.Begun before read text way := by
  intro way member
  rw [waysAt] at member
  split at member
  · rcases List.mem_append.mp member with old | new
    · exact begun way old
    · obtain rfl := List.mem_singleton.mp new
      exact begun_entry before read text
  · exact begun way member

/-- A way that takes no character has begun the same match. -/
theorem Begun.of_leads {after : Nat} (begun : program.Begun before read text way)
    (leads : program.Leads (lastOr before read) text.head? way.place after) :
    program.Begun before read text { way with place := after } := by
  obtain ⟨started, ends⟩ := begun
  refine ⟨started, fun taken rest same steps accepted => ends taken rest same (steps + 1) ?_⟩
  cases leads with
  | check here holds =>
    rw [same, List.head?_append] at holds
    exact .check here holds accepted
  | first here => exact .first here accepted
  | second here => exact .second here accepted

/-- A way behind a character that it takes has begun the same match. -/
theorem Begun.of_take {set : CharSet} {after : Nat}
    (begun : program.Begun before read (c :: rest) way)
    (here : program.code[way.place]? = some (.take set after)) (inSet : set c = true) :
    program.Begun before (read ++ [c]) rest { way with place := after } := by
  obtain ⟨started, ends⟩ := begun
  refine ⟨by simp; omega, fun taken rest' same steps accepted => ?_⟩
  have ended := ends (c :: taken) rest' (by simp [same]) (steps + 1)
    (.take here inSet (by simpa [lastOr] using accepted))
  rw [List.take_append_of_le_length started, List.drop_append_of_le_length started]
  simpa using ended

/-- A way that has come to acceptance has ended a match. -/
theorem Begun.foundIn (begun : program.Begun before read text way)
    (here : program.code[way.place]? = some .accept) :
    program.FoundIn before (read ++ text) ⟨way.start, read.length - way.start⟩ := by
  obtain ⟨started, ends⟩ := begun
  refine ⟨read.take way.start, read.drop way.start, text, ?_,
    (List.length_take_of_le started).symm, List.length_drop.symm, ?_⟩
  · rw [← List.append_assoc, List.take_append_drop]
  · simpa using ends [] text rfl 0 (.accept here)

/-- The best match at a position stands in the text. -/
theorem bestAt_sound (begun : ∀ way ∈ ways, program.Begun before read text way)
    (sound : ∀ found, best = some found → program.FoundIn before (read ++ text) found)
    (isBest : program.bestAt (lastOr before read) text.head? ways read.length best = some found) :
    program.FoundIn before (read ++ text) found := by
  obtain ⟨-, matched⟩ := frontier_sound (fun _ _ => Begun.of_leads) begun
  rcases Option.or_eq_some_iff.mp isBest with here | ⟨-, earlier⟩
  · obtain ⟨start, isMatched, rfl⟩ := Option.map_eq_some_iff.mp here
    obtain ⟨way, ofWay, rfl, accepts⟩ := matched start isMatched
    exact ofWay.foundIn accepts
  · exact sound found earlier

/-- What the search returns stands in the text, if all ways have begun a match in it. -/
theorem run_sound (read : Text) (begun : ∀ way ∈ ways, program.Begun before read text way)
    (sound : ∀ found, best = some found → program.FoundIn before (read ++ text) found)
    (returned : program.run ways (lastOr before read) read.length best text = some found) :
    program.FoundIn before (read ++ text) found := by
  induction text generalizing read ways best with
  | nil => exact bestAt_sound (begun_waysAt begun best) sound returned
  | cons c rest ih =>
    have better : ∀ found, program.bestAt (lastOr before read) (some c)
        (program.waysAt ways read.length best) read.length best = some found →
          program.FoundIn before (read ++ c :: rest) found :=
      fun found => bestAt_sound (begun_waysAt begun best) sound
    rw [run_cons] at returned
    dsimp only at returned
    split at returned
    · exact better found returned
    · -- The character is read.
      have behind : ∀ way ∈ program.waysBehind (lastOr before read) c
          (program.waysAt ways read.length best), program.Begun before (read ++ [c]) rest way := by
        intro led member
        obtain ⟨way, waits, same, set, here, inSet⟩ := mem_waysBehind_iff.mp member
        obtain ⟨begunWay, -⟩ := (frontier_sound (fun _ _ => Begun.of_leads)
          (begun_waysAt begun best)).1 way waits
        have begunLed := begunWay.of_take here inSet
        rwa [← same] at begunLed
      have next : lastOr before (read ++ [c]) = some c := by simp [lastOr]
      have ended := ih (read ++ [c]) behind (by simpa using better)
        (by rw [next, List.length_append]; exact returned)
      simpa using ended

end Soundness

section Priority

/-- What the search keeps: the ways are ranked, they have started, and none of them started behind
the best match. -/
structure Pursued (ways : List Way) (position : Nat) (best : Option Match) : Prop where
  ranked : Ranked ways
  started : ∀ way ∈ ways, way.start ≤ position
  better : ∀ found, best = some found → found.start ≤ position ∧
    ∀ way ∈ ways, way.start ≤ found.start

/-- A way that starts at a position is the last one. -/
theorem Pursued.waysAt (pursued : Pursued ways position best) (program : Program) :
    Pursued (program.waysAt ways position best) position best := by
  rw [Program.waysAt]
  split
  · next none =>
    refine ⟨List.pairwise_append.mpr ⟨pursued.ranked, List.pairwise_singleton _ _, ?_⟩, ?_, ?_⟩
    · intro way member new isNew
      obtain rfl := List.mem_singleton.mp isNew
      exact pursued.started way member
    · intro way member
      rcases List.mem_append.mp member with old | new
      · exact pursued.started way old
      · obtain rfl := List.mem_singleton.mp new
        exact Nat.le_refl _
    · intro found isBest
      simp [isBest] at none
  · exact pursued

/-- Behind a character the ways are still ranked, and a match that ended before it started no later
than they did. -/
theorem Pursued.waysBehind (pursued : Pursued ways position best) (program : Program)
    (previous : Option Char) (c : Char) : Pursued (program.waysBehind previous c ways) (position + 1)
      (program.bestAt previous (some c) ways position best) := by
  -- The ways behind the character started as those did that wait for it.
  have started : ∀ {bound : Nat}, (∀ way ∈ ways, way.start ≤ bound) →
      ∀ way ∈ (program.frontier previous (some c) ways).waiting, way.start ≤ bound :=
    fun within way waits => ((frontier_sound (fun _ _ early _ => early) within).1 way waits).1
  have behind : ∀ {bound : Nat}, (∀ way ∈ (program.frontier previous (some c) ways).waiting,
      way.start ≤ bound) → ∀ way ∈ program.waysBehind previous c ways, way.start ≤ bound := by
    intro bound within led member
    obtain ⟨way, waits, same, -⟩ := mem_waysBehind_iff.mp member
    exact same ▸ within way waits
  obtain ⟨ranked, notBehind⟩ := frontier_ranked program previous (some c) pursued.ranked
  refine ⟨?_, fun way member => ?_, fun found isBest => ?_⟩
  · refine List.pairwise_filterMap.mpr (ranked.imp ?_)
    intro way later notLater led isLed led' isLed'
    rwa [(after?_eq_some_iff.mp isLed).1, (after?_eq_some_iff.mp isLed').1]
  · exact Nat.le_succ_of_le (behind (started pursued.started) way member)
  · rcases Option.or_eq_some_iff.mp isBest with here | ⟨-, earlier⟩
    · obtain ⟨start, isMatched, rfl⟩ := Option.map_eq_some_iff.mp here
      obtain ⟨way, early, rfl, -⟩ := (frontier_sound (fun _ _ early _ => early)
        pursued.started).2 start isMatched
      exact ⟨Nat.le_succ_of_le early, behind (notBehind _ isMatched)⟩
    · obtain ⟨early, notLater⟩ := pursued.better found earlier
      exact ⟨Nat.le_succ_of_le early, behind (started notLater)⟩

/-- A match begins in a text, at a position that is not behind `start`. -/
def Begins (program : Program) (previous : Option Char) (position : Nat) (text : Text)
    (start : Nat) : Prop :=
  ∃ skipped rest, text = skipped ++ rest ∧ position + skipped.length ≤ start ∧
    ∃ steps, program.Finishes steps program.entry (lastOr previous skipped) rest

/-- A match is due that starts at a position or before it: it has been found, a way leads to it, or
it begins in the text. -/
def Due (program : Program) (previous : Option Char) (ways : List Way) (position : Nat)
    (best : Option Match) (text : Text) (start : Nat) : Prop :=
  (∃ found, best = some found ∧ found.start ≤ start) ∨
  (∃ way ∈ ways, way.start ≤ start ∧ ∃ steps, program.Finishes steps way.place previous text) ∨
  program.Begins previous position text start

/-- A match that begins at a position is one that a way leads to, unless one was found before. -/
theorem Due.waysAt (due : program.Due previous ways position best text start)
    (pursued : Pursued ways position best) :
    (∃ found, best = some found ∧ found.start ≤ start) ∨
    (∃ way ∈ program.waysAt ways position best, way.start ≤ start ∧
      ∃ steps, program.Finishes steps way.place previous text) ∨
    ∃ c rest, text = c :: rest ∧ program.Begins (some c) (position + 1) rest start := by
  rcases due with isFound | ⟨way, member, early, finishes⟩ |
    ⟨skipped, rest, rfl, notLater, finishes⟩
  · exact .inl isFound
  · refine .inr (.inl ⟨way, ?_, early, finishes⟩)
    rw [Program.waysAt]
    split
    · exact List.mem_append_left _ member
    · exact member
  · cases skipped with
    | cons c skipped =>
      rw [lastOr_cons] at finishes
      rw [List.length_cons] at notLater
      exact .inr (.inr ⟨c, skipped ++ rest, rfl, skipped, rest, rfl, by omega, finishes⟩)
    | nil =>
      cases isBest : best with
      | some found =>
        exact .inl ⟨found, rfl, Nat.le_trans (pursued.better found isBest).1 notLater⟩
      | none =>
        exact .inr (.inl ⟨⟨program.entry, position⟩, by simp [Program.waysAt], notLater, finishes⟩)

/-- A better match started no later. -/
theorem exists_bestAt (pursued : Pursued ways position best) (isFound : best = some found)
    (program : Program) (previous next : Option Char) :
    ∃ better, program.bestAt previous next ways position best = some better ∧
      better.start ≤ found.start := by
  cases matched : (program.frontier previous next ways).matched with
  | none => exact ⟨found, by simp [bestAt, matched, isFound], Nat.le_refl _⟩
  | some start =>
    obtain ⟨way, early, rfl, -⟩ := (frontier_sound (fun _ _ early _ => early)
      (pursued.better found isFound).2).2 start matched
    exact ⟨⟨way.start, position - way.start⟩, by simp [bestAt, matched], early⟩

/-- A way that finishes has come to a match at a position, or it goes on behind a character. -/
theorem exists_of_finishes (pursued : Pursued ways position best) (member : way ∈ ways)
    (early : way.start ≤ start) {steps : Nat}
    (finishes : program.Finishes steps way.place previous text) :
    (∃ found, program.bestAt previous text.head? ways position best = some found ∧
      found.start ≤ start) ∨
    ∃ c rest, text = c :: rest ∧ ∃ led ∈ program.waysBehind previous c ways, led.start ≤ start ∧
      ∃ steps, program.Finishes steps led.place (some c) rest := by
  rcases frontier_complete pursued.ranked member finishes with ⟨first, notLater, matched⟩ |
    ⟨other, waits, notLater, steps, finishes⟩
  · exact .inl ⟨⟨first, position - first⟩, by simp [bestAt, matched],
      Nat.le_trans notLater early⟩
  · obtain ⟨set, after, here⟩ := frontier_waits waits
    obtain ⟨fewer, c, rest, rfl, inSet, more⟩ := exists_of_finishes_take here finishes
    exact .inr ⟨c, rest, rfl, ⟨after, other.start⟩,
      mem_waysBehind_iff.mpr ⟨other, waits, rfl, set, here, inSet⟩,
      Nat.le_trans notLater early, fewer, more⟩

/-- What is due is still due behind a character. -/
theorem Due.behind (due : program.Due previous ways position best (c :: rest) start)
    (pursued : Pursued ways position best) :
    program.Due (some c) (program.waysBehind previous c (program.waysAt ways position best))
      (position + 1)
      (program.bestAt previous (some c) (program.waysAt ways position best) position best) rest
      start := by
  rcases due.waysAt pursued with ⟨found, isBest, early⟩ | ⟨way, member, early, steps, finishes⟩ |
    ⟨d, rest', same, begins⟩
  · obtain ⟨better, isBetter, notLater⟩ :=
      exists_bestAt (pursued.waysAt program) isBest program previous (some c)
    exact .inl ⟨better, isBetter, Nat.le_trans notLater early⟩
  · rcases exists_of_finishes (pursued.waysAt program) member early finishes with isFound |
      ⟨d, rest', same, goesOn⟩
    · exact .inl isFound
    · obtain ⟨rfl, rfl⟩ := List.cons.inj same
      exact .inr (.inl goesOn)
  · obtain ⟨rfl, rfl⟩ := List.cons.inj same
    exact .inr (.inr begins)

/-- The search returns a match that started no later than one that is due. -/
theorem run_first (pursued : Pursued ways position best)
    (due : program.Due previous ways position best text start) :
    ∃ found, program.run ways previous position best text = some found ∧ found.start ≤ start := by
  induction text generalizing previous ways position best with
  | nil =>
    rw [run_nil]
    rcases due.waysAt pursued with ⟨found, isBest, early⟩ |
      ⟨way, member, early, steps, finishes⟩ | ⟨c, rest, same, -⟩
    · obtain ⟨better, isBetter, notLater⟩ :=
        exists_bestAt (pursued.waysAt program) isBest program previous none
      exact ⟨better, isBetter, Nat.le_trans notLater early⟩
    · rcases exists_of_finishes (pursued.waysAt program) member early finishes with isFound |
        ⟨c, rest, same, -⟩
      · exact isFound
      · cases same
    · cases same
  | cons c rest ih =>
    have next := (pursued.waysAt program).waysBehind program previous c
    have stillDue := due.behind pursued
    rw [run_cons]
    dsimp only
    split
    · next stops =>
      -- No way is left, and what begins later gives way to the match that was found.
      obtain ⟨none, some⟩ := Bool.and_eq_true_iff.mp stops
      obtain ⟨found, isBest⟩ := Option.isSome_iff_exists.mp some
      rw [List.isEmpty_iff] at none
      rw [none] at stillDue
      rcases stillDue with isFound | ⟨way, member, -⟩ | ⟨skipped, rest, -, notLater, -⟩
      · exact isFound
      · exact absurd member List.not_mem_nil
      · exact ⟨found, isBest,
          Nat.le_trans (next.better found isBest).1 (Nat.le_trans (Nat.le_add_right _ _) notLater)⟩
    · exact ih next stillDue

end Priority

/-- Where a text has a match, one is found that starts no later. -/
theorem exists_find?_of_matches {left piece right : Text}
    (matched : program.Matches (lastOr previous left) piece right.head?) :
    ∃ found, program.find? previous (left ++ (piece ++ right)) = some found ∧
      found.start ≤ left.length := by
  obtain ⟨steps, accepted⟩ := matched
  -- At the start of the search there are no ways, and the match begins in the text.
  exact run_first ⟨.nil, by simp, by simp⟩ (.inr (.inr
    ⟨left, piece ++ right, rfl, Nat.le_of_eq (Nat.zero_add _), steps, piece, right, rfl, accepted⟩))

/-- What is found is a match in the text. -/
theorem foundIn_of_find? (isFound : program.find? previous text = some found) :
    program.FoundIn previous text found :=
  run_sound [] (by simp) (by simp) isFound

/-- Nothing is found exactly in a text without a match. -/
theorem find?_eq_none_iff : program.find? previous text = none ↔
    ∀ left piece right, text = left ++ (piece ++ right) →
      ¬ program.Matches (lastOr previous left) piece right.head? := by
  constructor
  · rintro absent left piece right rfl matched
    obtain ⟨first, isFirst, -⟩ := exists_find?_of_matches matched
    cases isFirst.symm.trans absent
  · intro absent
    refine Option.eq_none_iff_forall_ne_some.mpr fun found isFound => ?_
    obtain ⟨left, piece, right, same, -, -, matched⟩ := foundIn_of_find? isFound
    exact absent left piece right same matched

/-- What is found is told by its start and its length. -/
theorem find?_eq_some_of_map {length : Nat}
    (places : (program.find? previous text).map (fun found => (found.start, found.length)) =
      some (start, length)) : program.find? previous text = some ⟨start, length⟩ := by
  obtain ⟨found, isFound, same⟩ := Option.map_eq_some_iff.mp places
  obtain ⟨rfl, rfl⟩ := Prod.mk.inj same
  exact isFound

end TokenGuard.Regex.Program
