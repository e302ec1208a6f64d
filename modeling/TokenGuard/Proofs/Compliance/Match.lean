import TokenGuard.Compliance.Pattern
import TokenGuard.Proofs.Text.Rewriting

/-! A pattern is found in a line exactly if its parts fit a piece of the line between two word
boundaries. -/

namespace TokenGuard

variable {line front back : Text} {marks marks' : List Bool} {parts : List PatternPart}
  {previous : Option Char} {place : Nat}

/-- Parts fit a text that they make up in order. -/
inductive Fits : List PatternPart → Text → Prop
  /-- No part makes up the empty text. -/
  | done : Fits [] []
  /-- A character stands for itself. -/
  | character {c : Char} {parts : List PatternPart} {text : Text} (rest : Fits parts text) :
      Fits (.character c :: parts) (c :: text)
  /-- A run stands for any characters that are not blank. -/
  | run {parts : List PatternPart} {skipped text : Text}
      (filled : ∀ c ∈ skipped, isBlank c = false) (rest : Fits parts text) :
      Fits (.run :: parts) (skipped ++ text)

/-- There is a mark for every place, and it tells whether a word starts or ends there. -/
theorem getD_wordBoundaries (previous : Option Char) (front back : Text) :
    (wordBoundaries previous (front ++ back)).getD front.length false =
      atBoundary isAsciiWord (Text.lastOr previous front) back.head? := by
  -- Walking over the front, what the walk remembers is the last character that it has passed.
  induction front generalizing previous with
  | nil => cases back <;> simp [wordBoundaries, Text.lastOr]
  | cons c front ih =>
    rw [Text.lastOr_cons, ← ih]
    simp [wordBoundaries]

/-- Behind the end of a text there is no mark. -/
theorem length_wordBoundaries (previous : Option Char) (line : Text) :
    (wordBoundaries previous line).length = line.length + 1 := by
  induction line generalizing previous with
  | nil => rfl
  | cons c rest ih => simp [wordBoundaries, ih]

/-- A place is marked before a character if the character stands there and the next place is
marked. -/
theorem getD_markBefore (c : Char) (front : Text) :
    (markBefore c (front ++ back) marks).getD front.length false =
      (back.head? == some c && marks.getD (front.length + 1) false) := by
  -- Each character of the front takes one mark along.
  induction front generalizing marks with
  | nil =>
    cases back with
    | nil => simp [markBefore]
    | cons d rest =>
      -- At the place itself two marks are read: its own, and the one behind the character.
      cases marks with
      | nil => simp [markBefore]
      | cons here marks =>
        cases marks <;> simp [markBefore, Bool.beq_comm]
  | cons d front ih =>
    cases marks with
    | nil => simp [markBefore]
    | cons here marks => simpa [markBefore] using ih

/-- The first mark is that of the first place. -/
theorem headD_eq_getD (marks : List Bool) : marks.headD false = marks.getD 0 false := by
  cases marks <;> rfl

/-- The start of a text is marked if no blank stands before a marked place. -/
theorem headD_markReaching :
    (markReaching back marks).headD false = true ↔
      ∃ skipped rest, back = skipped ++ rest ∧ (∀ c ∈ skipped, isBlank c = false) ∧
        marks.getD skipped.length false = true := by
  induction back generalizing marks with
  | nil =>
    -- At the end of the line only its own mark counts.
    have unchanged : markReaching [] marks = marks := by cases marks <;> rfl
    rw [unchanged, headD_eq_getD]
    constructor
    · intro here
      exact ⟨[], [], rfl, by simp, here⟩
    · rintro ⟨skipped, rest, same, -, here⟩
      obtain ⟨rfl, rfl⟩ := List.append_eq_nil_iff.mp same.symm
      exact here
  | cons c back ih =>
    cases marks with
    | nil => simp [markReaching]
    | cons here marks =>
      simp only [markReaching, List.headD_cons, Bool.or_eq_true, Bool.and_eq_true,
        Bool.not_eq_true', ih]
      -- Either nothing is skipped, or the first character and some behind it.
      constructor
      · rintro (marked | ⟨filled, skipped, rest, rfl, others, marked⟩)
        · exact ⟨[], c :: back, rfl, by simp, by simpa using marked⟩
        · exact ⟨c :: skipped, rest, rfl, by simpa [filled] using others, by simpa using marked⟩
      · rintro ⟨skipped, rest, same, filled, marked⟩
        cases skipped with
        | nil => exact .inl (by simpa using marked)
        | cons d skipped =>
          obtain ⟨rfl, rfl⟩ := List.cons.inj same
          rw [List.forall_mem_cons] at filled
          exact .inr ⟨filled.1, skipped, rest, rfl, filled.2, by simpa using marked⟩

/-- A place is marked if no blank stands between it and a marked place. -/
theorem getD_markReaching (front : Text) :
    (markReaching (front ++ back) marks).getD front.length false = true ↔
      ∃ skipped rest, back = skipped ++ rest ∧ (∀ c ∈ skipped, isBlank c = false) ∧
        marks.getD (front.length + skipped.length) false = true := by
  -- The marks behind the front are those of the rest alone.
  induction front generalizing marks with
  | nil =>
    simp only [List.nil_append, List.length_nil, Nat.zero_add, ← headD_eq_getD, headD_markReaching]
  | cons c front ih =>
    cases marks with
    | nil => simp [markReaching]
    | cons here marks =>
      simp only [List.cons_append, markReaching, List.length_cons, List.getD_cons_succ, ih,
        Nat.add_right_comm _ 1]

/-- A place is marked as the start of parts if they fit a piece that ends at a marked place. -/
theorem getD_markStarts (front : Text) :
    (markStarts (front ++ back) marks parts).getD front.length false = true ↔
      ∃ mid rest, back = mid ++ rest ∧ Fits parts mid ∧
        marks.getD (front.length + mid.length) false = true := by
  -- The parts are marked from the last one to the first one, so the induction is on them.
  induction parts generalizing front back with
  | nil =>
    -- Without parts the places where a piece may end are those where it starts.
    rw [markStarts]
    constructor
    · intro marked
      exact ⟨[], back, rfl, .done, marked⟩
    · rintro ⟨mid, rest, rfl, fits, marked⟩
      cases fits
      exact marked
  | cons part parts ih =>
    cases part with
    | character c =>
      rw [markStarts, getD_markBefore, Bool.and_eq_true, beq_iff_eq]
      -- The other parts start behind the character.
      constructor
      · rintro ⟨here, marked⟩
        obtain ⟨rest, rfl⟩ := List.head?_eq_some_iff.mp here
        have split : front ++ c :: rest = (front ++ [c]) ++ rest := by simp
        rw [split, ← List.length_singleton (a := c), ← List.length_append, ih] at marked
        obtain ⟨mid, behind, rfl, fits, marked⟩ := marked
        refine ⟨c :: mid, behind, rfl, .character fits, ?_⟩
        simpa [Nat.add_assoc, Nat.add_comm 1] using marked
      · rintro ⟨mid, rest, rfl, fits, marked⟩
        cases fits with
        | @character _ _ mid fits =>
          refine ⟨rfl, ?_⟩
          have split : front ++ (c :: mid ++ rest) = (front ++ [c]) ++ (mid ++ rest) := by simp
          rw [split, ← List.length_singleton (a := c), ← List.length_append, ih]
          exact ⟨mid, rest, rfl, fits, by simpa [Nat.add_assoc, Nat.add_comm 1] using marked⟩
    | run =>
      rw [markStarts, getD_markReaching]
      -- The other parts start behind what the run stands for.
      constructor
      · rintro ⟨skipped, rest, rfl, filled, marked⟩
        rw [← List.append_assoc, ← List.length_append, ih] at marked
        obtain ⟨mid, behind, rfl, fits, marked⟩ := marked
        exact ⟨skipped ++ mid, behind, by simp, .run filled fits,
          by simpa [Nat.add_assoc] using marked⟩
      · rintro ⟨mid, rest, rfl, fits, marked⟩
        cases fits with
        | @run _ skipped mid filled fits =>
          refine ⟨skipped, mid ++ rest, by simp, filled, ?_⟩
          have split : front ++ (skipped ++ mid ++ rest) = (front ++ skipped) ++ (mid ++ rest) := by
            simp
          rw [split, ← List.length_append, ih]
          exact ⟨mid, rest, rfl, fits, by simpa [Nat.add_assoc] using marked⟩

/-- Two lists have a common mark exactly if both mark some place. -/
theorem any_zip_and_iff :
    (marks.zip marks').any (fun place => place.1 && place.2) = true ↔
      ∃ place : Nat, marks.getD place false = true ∧ marks'.getD place false = true := by
  -- Lists of different lengths agree at no place behind the end of the shorter one.
  induction marks generalizing marks' with
  | nil => simp
  | cons here marks ih =>
    cases marks' with
    | nil => simp
    | cons here' marks' =>
      simp only [List.zip_cons_cons, List.any_cons, Bool.or_eq_true, Bool.and_eq_true, ih]
      constructor
      · rintro (first | ⟨place, marked⟩)
        · exact ⟨0, by simpa using first⟩
        · exact ⟨place + 1, by simpa using marked⟩
      · rintro ⟨place, marked⟩
        cases place with
        | zero => exact .inl (by simpa using marked)
        | succ place => exact .inr ⟨place, by simpa using marked⟩

namespace ForbiddenPattern

variable {pattern : ForbiddenPattern} {left right : Text}

/-- What is read in two parts is a text of two parts, and the other way round. -/
theorem reading_eq_append_iff {text read read' : Text} :
    pattern.reading text = read ++ read' ↔
      ∃ left right, text = left ++ right ∧ pattern.reading left = read ∧
        pattern.reading right = read' := by
  unfold reading
  split
  · simp
  · exact List.map_eq_append_iff

/-- Reading keeps the number of characters. -/
theorem length_reading (pattern : ForbiddenPattern) (text : Text) :
    (pattern.reading text).length = text.length := by
  unfold reading
  split <;> simp

/-- A pattern matches a line exactly if its parts fit a piece with a word boundary at each end. -/
theorem isMatch_iff :
    pattern.isMatch line = true ↔
      ∃ left mid right, line = left ++ mid ++ right ∧ Fits pattern.parts (pattern.reading mid) ∧
        atBoundary isAsciiWord left.getLast? (mid ++ right).head? = true ∧
        atBoundary isAsciiWord (left ++ mid).getLast? right.head? = true := by
  have previous : ∀ front : Text, Text.lastOr none front = front.getLast? := by
    intro front
    simp [Text.lastOr]
  have read : ∀ left right : Text,
      pattern.reading (left ++ right) = pattern.reading left ++ pattern.reading right :=
    fun left right => reading_eq_append_iff.mpr ⟨left, right, rfl, rfl, rfl⟩
  rw [isMatch, any_zip_and_iff]
  constructor
  · rintro ⟨place, opened, starts⟩
    -- A place that is marked is one of the line.
    have inside : place ≤ line.length := by
      refine Nat.le_of_not_lt fun late => ?_
      have beyond : (wordBoundaries none line)[place]? = none := by
        rw [List.getElem?_eq_none_iff, length_wordBoundaries]
        omega
      simp [List.getD_eq_getElem?_getD, beyond] at opened
    -- The place divides the line, and the piece that the parts fit divides what is behind.
    obtain ⟨left, back, rfl, rfl⟩ : ∃ left back, line = left ++ back ∧ left.length = place :=
      ⟨line.take place, line.drop place, by simp, by simp [inside]⟩
    rw [getD_wordBoundaries, previous] at opened
    rw [read, ← pattern.length_reading left, getD_markStarts] at starts
    obtain ⟨mid', rest', divided, fits, closed⟩ := starts
    obtain ⟨mid, right, rfl, rfl, rfl⟩ := reading_eq_append_iff.mp divided
    rw [length_reading, length_reading, ← List.append_assoc, ← List.length_append,
      getD_wordBoundaries, previous] at closed
    exact ⟨left, mid, right, by simp, fits, opened, closed⟩
  · rintro ⟨left, mid, right, rfl, fits, opened, closed⟩
    -- The piece tells the place: both marks are those of its two ends.
    refine ⟨left.length, ?_, ?_⟩
    · rw [List.append_assoc, getD_wordBoundaries, previous]
      exact opened
    · rw [List.append_assoc left mid, read, ← pattern.length_reading left, getD_markStarts]
      refine ⟨pattern.reading mid, pattern.reading right, read mid right, fits, ?_⟩
      rw [length_reading, length_reading, ← List.append_assoc, ← List.length_append,
        getD_wordBoundaries, previous]
      exact closed

/-- A pattern fits its own spelling. -/
theorem fits_reading (pattern : ForbiddenPattern) :
    Fits pattern.parts (pattern.reading pattern.raw) := by
  -- Character by character, with reading being the same on both sides.
  have each : ∀ text : Text,
      Fits (text.map fun c => if c = '*' then .run else .character c) text := by
    intro text
    induction text with
    | nil => exact .done
    | cons c text ih =>
      by_cases star : c = '*'
      · -- An asterisk is one character that is not blank.
        subst star
        have one : Fits (.run :: text.map fun c => if c = '*' then .run else .character c)
            (['*'] ++ text) := .run (List.forall_mem_singleton.mpr rfl) ih
        simpa using one
      · simpa [star] using Fits.character ih
  exact each _

end ForbiddenPattern

end TokenGuard
