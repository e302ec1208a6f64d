import TokenGuard.Proofs.Residual.Scan
import TokenGuard.Proofs.Text.CharRange
import TokenGuard.Proofs.Text.Words

/-! What a detector finds in a word it finds wherever the word stands alone. -/

namespace TokenGuard

open Finder

variable {detector : ResidualDetector} {token? : Finder} {c : Char}
  {front piece back text token : Text}

/-- An ASCII letter, a digit or a hyphen. -/
def isNameCharacter (c : Char) : Bool := c.isAlphanum || c = '-'

/-- A character that a token may have, if names have none but name characters. -/
def isTokenCharacter (c : Char) : Bool := isNameCharacter c || c = '/' || isDecimalDigit c

/-- Every tail character of a legacy name is a name character. -/
theorem isNameCharacter_of_isLegacyTail (tail : isLegacyTail c = true) :
    isNameCharacter c = true := by
  -- A small letter and a digit are letters and digits of ASCII, and there is the hyphen.
  simp only [isLegacyTail, Bool.or_eq_true, decide_eq_true_eq] at tail
  rcases tail with (lower | digit) | rfl
  · have alphanumeric : c.isAlphanum = true :=
      Bool.or_eq_true_iff.mpr (.inl (Bool.or_eq_true_iff.mpr (.inr lower)))
    simp [isNameCharacter, alphanumeric]
  · have alphanumeric : c.isAlphanum = true := Bool.or_eq_true_iff.mpr (.inr digit)
    simp [isNameCharacter, alphanumeric]
  · decide

/-- No blank is a character of a token. -/
theorem isTokenCharacter_of_isBlank (blank : isBlank c = true) : isTokenCharacter c = false := by
  have hyphen : c ≠ '-' := by rintro rfl; exact absurd blank (by decide)
  have slash : c ≠ '/' := by rintro rfl; exact absurd blank (by decide)
  simp [isTokenCharacter, isNameCharacter, isAlphanum_of_isBlank blank,
    isDecimalDigit_of_isBlank blank, hyphen, slash]

/-- No blank is a character of a word. -/
theorem isAsciiWord_of_isBlank (blank : isBlank c = true) : isAsciiWord c = false := by
  have line : c ≠ '_' := by rintro rfl; exact absurd blank (by decide)
  simp [isAsciiWord, isAlphanum_of_isBlank blank, line]

namespace ResidualDetector

/-- What a detector looks for, in the order of its report. -/
def finders (detector : ResidualDetector) : List Finder :=
  legacyToken? detector.legacyLead ::
    if detector.palette.isEmpty then [] else [rawToken? detector.palette]

/-- A detector reports what a scan for one of its tokens finds. -/
theorem mem_detect_iff : token ∈ detector.detect text ↔
    ∃ token? ∈ detector.finders, token ∈ scanTokens token? none 0 text := by
  rw [detect, List.mem_eraseDups, List.mem_append]
  by_cases uncolored : detector.palette.isEmpty <;>
    simp [legacyTokens, rawTokens, finders, uncolored]

/-- A detector reports nothing exactly if no scan finds a token. -/
theorem detect_eq_nil_iff : detector.detect text = [] ↔
    ∀ token? ∈ detector.finders, scanTokens token? none 0 text = [] := by
  simp only [List.eq_nil_iff_forall_not_mem, mem_detect_iff, not_exists, not_and]
  exact ⟨fun nothing token? member token => nothing token token? member,
    fun nothing token token? member => nothing token? member token⟩

/-- Everything a detector looks for is found where it stands. -/
theorem sound_of_mem_finders (member : token? ∈ detector.finders) : Sound token? := by
  -- There are at most two kinds of tokens, and raw ones only for a palette that has any.
  simp only [finders, List.mem_cons] at member
  rcases member with rfl | member
  · exact sound_legacy detector.legacyLead
  · split at member
    · simp at member
    · exact List.mem_singleton.mp member ▸ sound_raw detector.palette

/-- Nothing a detector looks for is hidden by what follows. -/
theorem persistent_of_mem_finders (member : token? ∈ detector.finders) : Persistent token? := by
  simp only [finders, List.mem_cons] at member
  rcases member with rfl | member
  · exact persistent_legacy detector.legacyLead
  · split at member
    · simp at member
    · exact List.mem_singleton.mp member ▸ persistent_raw detector.palette

/-- A detector reports something in every text that has a piece with a token, unless the piece
continues a word. -/
theorem detect_ne_nil_of_piece (found : detector.detect piece ≠ [])
    (opened : front.getLast?.any isAsciiWord = false) (back : Text) :
    detector.detect (front ++ piece ++ back) ≠ [] := by
  simp only [ne_eq, detect_eq_nil_iff, not_forall] at found ⊢
  obtain ⟨token?, member, found⟩ := found
  refine ⟨token?, member, scanTokens_ne_nil (sound_of_mem_finders member) ?_⟩
  obtain ⟨token, found⟩ := List.exists_mem_of_ne_nil _ found
  obtain ⟨skipped, rest, rfl, boundary, start⟩ := somewhere_of_mem_scanTokens found
  -- The place in the piece is one in the text, at which the same token or a longer one starts.
  refine ⟨front ++ skipped, rest ++ back, by simp, ?_, persistent_of_mem_finders member _ _ start⟩
  cases rest with
  | nil => simp [(sound_of_mem_finders member).nil] at start
  | cons c rest =>
    -- Only at the start of the piece the character before it is another one in the text.
    cases skipped using List.reverseRec with
    | nil => simpa [atBoundary, Text.lastOr, opened] using boundary
    | append_singleton skipped d =>
      simpa [atBoundary, Text.lastOr, ← List.append_assoc] using boundary

/-- The names that a detector builds tokens from consist of name characters. -/
def Named (detector : ResidualDetector) : Prop :=
  ∀ name ∈ detector.legacyLead :: (detector.palette.utilities ++ detector.palette.names),
    name.all isNameCharacter = true

instance (detector : ResidualDetector) : Decidable detector.Named :=
  inferInstanceAs (Decidable (∀ name ∈ (_ : List Text), name.all isNameCharacter = true))

/-- No token of a detector goes beyond a character that tokens do not have. -/
theorem stopsAt_of_mem_finders (named : detector.Named) (member : token? ∈ detector.finders)
    (outside : isTokenCharacter c = false) : StopsAt c token? := by
  -- The character is no name character, no slash and no digit, and tokens have no others.
  have other : isNameCharacter c = false ∧ c ≠ '/' ∧ isDecimalDigit c = false := by
    simpa [isTokenCharacter, and_assoc] using outside
  obtain ⟨notName, slash, digit⟩ := other
  have hyphen : c ≠ '-' := fun same => by simp [isNameCharacter, same] at notName
  have absent : ∀ name ∈ detector.legacyLead ::
      (detector.palette.utilities ++ detector.palette.names), c ∉ name :=
    fun name member inside => by
      simp [List.all_eq_true.mp (named name member) c inside] at notName
  have tail : isLegacyTail c = false :=
    Bool.eq_false_iff.mpr fun tail => by simp [isNameCharacter_of_isLegacyTail tail] at notName
  simp only [finders, List.mem_cons] at member
  rcases member with rfl | member
  · exact stopsAt_legacy (absent _ (by simp)) tail
  · split at member
    · simp at member
    · rw [List.mem_singleton.mp member]
      exact ((stopsAt_shade slash digit).wordThen hyphen
        fun name ofNames => absent name (by simp [ofNames])).wordThen hyphen
          fun name ofUtilities => absent name (by simp [ofUtilities])

end ResidualDetector

/-- Where no token goes on. -/
def outsideToken : Neighbour := fun beside => !beside.any isTokenCharacter

/-- Where no token goes on, and as much of a word as after another character. -/
def outsideLike (previous : Option Char) : Neighbour := fun beside =>
  outsideToken beside && beside.any isAsciiWord == previous.any isAsciiWord

/-- A detector reports what it finds in a maximal run of token characters, for which only matters
whether the run continues a word. -/
theorem ResidualDetector.mem_detect_iff_run (named : detector.Named) :
    token ∈ detector.detect text ↔
      ∃ token? ∈ detector.finders, ∃ previous run, (∀ c ∈ run, isTokenCharacter c = true) ∧
        token ∈ scanTokens token? previous 0 run ∧
        Text.StandsIn run (outsideLike previous) outsideToken text := by
  rw [mem_detect_iff]
  refine exists_congr fun token? => and_congr_right fun member => ?_
  have sound := sound_of_mem_finders member
  have stops := fun c outside => stopsAt_of_mem_finders (c := c) named member outside
  constructor
  · -- The run that the token was found in stands in the text.
    intro found
    obtain ⟨front, run, back, rfl, inside, opened, closed, found⟩ :=
      exists_run_of_mem_scanTokens sound stops found
    refine ⟨front.getLast?, run, inside, by simpa [Text.lastOr] using found,
      front, run ++ back, by simp, ?_, back, rfl, by simp [outsideToken, closed]⟩
    simp [outsideLike, outsideToken, Text.lastOr, opened]
  · -- Wherever the run stands, the scan of the text finds what the scan of the run does.
    rintro ⟨previous, run, -, found, front, rest, rfl, opened, back, rfl, closed⟩
    obtain ⟨opened, like⟩ : front.getLast?.any isTokenCharacter = false ∧
        front.getLast?.any isAsciiWord = previous.any isAsciiWord := by
      simpa [outsideLike, outsideToken, Text.lastOr] using opened
    rw [← List.append_assoc]
    refine mem_scanTokens_of_run sound stops opened (by simpa [outsideToken] using closed) ?_
    rwa [scanTokens_congr (by simpa [Text.lastOr] using like)]

end TokenGuard
