import TokenGuard.Proofs.Compliance.Match
import TokenGuard.Proofs.Text.Join

/-! The language of a pattern: its own spelling up to case, or the pieces between its asterisks with
anything but blanks in between, and a word boundary at both ends. -/

namespace TokenGuard

variable {line text first : Text} {pieces : List Text} {parts parts' : List PatternPart} {c : Char}

/-- A line has a piece of a kind with a word boundary at each of its two ends. -/
def HasBounded (fits : Text → Prop) (line : Text) : Prop :=
  ∃ left piece right, line = left ++ piece ++ right ∧ fits piece ∧
    atBoundary isAsciiWord left.getLast? (piece ++ right).head? = true ∧
    atBoundary isAsciiWord (left ++ piece).getLast? right.head? = true

/-- A text is made up of pieces in order, with characters that are not blank, or none, in the gaps
between them. -/
def StrungFrom (first : Text) (pieces : List Text) (text : Text) : Prop :=
  ∃ gaps : List (Text × Text), gaps.map Prod.snd = pieces ∧
    (∀ gap ∈ gaps, ∀ c ∈ gap.1, isBlank c = false) ∧
    text = first ++ gaps.flatMap fun gap => gap.1 ++ gap.2

/-- Behind the first piece comes a gap and what the other pieces make up. -/
theorem strungFrom_cons_iff {piece : Text} :
    StrungFrom first (piece :: pieces) text ↔
      ∃ gap rest, text = first ++ (gap ++ rest) ∧ (∀ c ∈ gap, isBlank c = false) ∧
        StrungFrom piece pieces rest := by
  constructor
  · -- The list of the gaps has a first element exactly if the list of the pieces has one.
    rintro ⟨gaps, same, filled, rfl⟩
    obtain ⟨⟨gap, _⟩, gaps, rfl, rfl, rest⟩ := List.map_eq_cons_iff.mp same
    rw [List.forall_mem_cons] at filled
    exact ⟨gap, _, by simp, filled.1, gaps, rest, filled.2, rfl⟩
  · rintro ⟨gap, _, rfl, unblank, gaps, rfl, filled, rfl⟩
    exact ⟨(gap, piece) :: gaps, by simp, List.forall_mem_cons.mpr ⟨unblank, filled⟩, by simp⟩

/-- Characters fit only the text that they spell. -/
theorem fits_characters_append_iff {spelling : Text} :
    Fits (spelling.map .character ++ parts) text ↔
      ∃ rest, text = spelling ++ rest ∧ Fits parts rest := by
  -- The characters are matched one at a time, and the rest is left to the other parts.
  induction spelling generalizing text with
  | nil => simp
  | cons c spelling ih =>
    constructor
    · intro fits
      cases fits with
      | character others =>
        obtain ⟨rest, rfl, behind⟩ := ih.mp others
        exact ⟨rest, rfl, behind⟩
    · rintro ⟨rest, rfl, fits⟩
      exact .character (ih.mpr ⟨rest, rfl, fits⟩)

/-- Without anything behind them, characters fit their own spelling. -/
theorem fits_characters_iff {spelling : Text} :
    Fits (spelling.map .character) text ↔ text = spelling := by
  have behind := @fits_characters_append_iff text [] spelling
  have empty : ∀ rest, Fits [] rest ↔ rest = [] := by
    intro rest
    constructor
    · rintro ⟨⟩
      rfl
    · rintro rfl
      exact .done
  simpa [empty] using behind

/-- A run fits characters that are not blank in front of what the other parts fit. -/
theorem fits_run_cons_iff :
    Fits (.run :: parts) text ↔
      ∃ gap rest, text = gap ++ rest ∧ (∀ c ∈ gap, isBlank c = false) ∧ Fits parts rest := by
  constructor
  · intro fits
    cases fits with
    | run unblank fits => exact ⟨_, _, rfl, unblank, fits⟩
  · rintro ⟨gap, rest, rfl, unblank, fits⟩
    exact .run unblank fits

/-- The part that a character of a pattern stands for. -/
def partOf (c : Char) : PatternPart := if c = '*' then .run else .character c

/-- Without asterisks every character stands for itself. -/
theorem map_partOf_of_plain (plain : '*' ∉ text) : text.map partOf = text.map .character := by
  -- Only an asterisk would stand for a run.
  refine List.map_congr_left fun c member => ?_
  have other : c ≠ '*' := by
    rintro rfl
    exact plain member
  simp [partOf, other]

/-- Pieces that are joined by asterisks fit what is strung together from them. -/
theorem fits_join_iff (plain : ∀ piece ∈ first :: pieces, '*' ∉ piece) :
    Fits ((Text.join ['*'] (first :: pieces)).map partOf) text ↔ StrungFrom first pieces text := by
  -- Each asterisk is a gap behind the piece before it.
  induction pieces generalizing first text with
  | nil =>
    rw [Text.join, map_partOf_of_plain (plain first (by simp)), fits_characters_iff]
    simp [StrungFrom]
  | cons piece pieces ih =>
    obtain ⟨ofFirst, others⟩ := List.forall_mem_cons.mp plain
    rw [Text.join_cons_cons, List.map_append, map_partOf_of_plain ofFirst,
      fits_characters_append_iff, strungFrom_cons_iff]
    have asterisk : (['*'] ++ Text.join ['*'] (piece :: pieces)).map partOf =
        .run :: (Text.join ['*'] (piece :: pieces)).map partOf := rfl
    simp only [asterisk, fits_run_cons_iff, ih others]
    -- Both sides now cut the text at the same places, named in another order.
    constructor
    · rintro ⟨_, rfl, gap, rest, rfl, unblank, strung⟩
      exact ⟨gap, rest, rfl, unblank, strung⟩
    · rintro ⟨gap, rest, rfl, unblank, strung⟩
      exact ⟨_, rfl, gap, rest, rfl, unblank, strung⟩

/-- The rule that folds a character is one of the rules. -/
theorem of_foldRule? {code : Nat} {rules : List FoldRule} {rule : FoldRule}
    (found : foldRule? code rules = some rule) : rule ∈ rules ∧ rule.first ≤ code := by
  -- The search goes down the rules and stops early where they start behind the code.
  induction rules with
  | nil => simp [foldRule?] at found
  | cons other rules ih =>
    rw [foldRule?] at found
    split at found
    · simp at found
    · next reached =>
      split at found
      · obtain rfl := Option.some.inj found
        exact ⟨List.mem_cons_self, Nat.le_of_not_lt reached⟩
      · exact ⟨List.mem_cons_of_mem other (ih found).1, (ih found).2⟩

/-- Only one number is that of the asterisk. -/
theorem eq_of_ofNat_eq_asterisk {code : Nat} (same : Char.ofNat code = '*') : code = 42 := by
  by_cases valid : code.isValidChar
  · rw [Char.ofNat, dif_pos valid] at same
    exact congrArg Char.toNat same
  · -- Numbers that are no characters stand for the null character.
    rw [Char.ofNat, dif_neg valid] at same
    exact absurd same (by decide)

/-- Only the asterisk is folded to an asterisk. -/
theorem foldCase_eq_asterisk_iff : foldCase c = '*' ↔ c = '*' := by
  constructor
  · intro folded
    unfold foldCase at folded
    split at folded
    · next rule found =>
      -- All characters that others are folded to come behind the asterisk.
      obtain ⟨member, low⟩ := of_foldRule? found
      have high : ∀ rule ∈ foldRules, 42 < (rule.first : Int) + rule.shift := by decide +kernel
      have above := high rule member
      have number := eq_of_ofNat_eq_asterisk folded
      omega
    · exact folded
  · rintro rfl
    decide +kernel

namespace ForbiddenPattern

/-- A pattern without asterisks fits what differs from it in case at most. -/
theorem fits_reading_iff_of_plain {pattern : ForbiddenPattern} (plain : '*' ∉ pattern.raw) :
    Fits pattern.parts (pattern.reading text) ↔ text.map foldCase = pattern.raw.map foldCase := by
  have read : ∀ text, pattern.reading text = text.map foldCase := by
    intro text
    simp [reading, plain]
  -- The pattern is read after folding, which must not bring in an asterisk.
  have folded : '*' ∉ pattern.raw.map foldCase := by
    rintro member
    obtain ⟨c, member, same⟩ := List.mem_map.mp member
    exact plain (foldCase_eq_asterisk_iff.mp same ▸ member)
  have parts : pattern.parts = (pattern.raw.map foldCase).map .character := by
    rw [← map_partOf_of_plain folded, ← read]
    rfl
  rw [parts, read, fits_characters_iff]

/-- A pattern with asterisks fits what is strung together from the pieces between them. -/
theorem fits_reading_iff_of_join {pattern : ForbiddenPattern} (several : pieces ≠ [])
    (plain : ∀ piece ∈ first :: pieces, '*' ∉ piece)
    (joined : pattern.raw = Text.join ['*'] (first :: pieces)) :
    Fits pattern.parts (pattern.reading text) ↔ StrungFrom first pieces text := by
  -- Several pieces are joined by an asterisk at least, so the pattern is read without folding.
  have asterisk : '*' ∈ pattern.raw := by
    obtain ⟨piece, pieces, rfl⟩ := List.exists_cons_of_ne_nil several
    rw [joined, Text.join_cons_cons]
    simp
  have read : ∀ text, pattern.reading text = text := by
    intro text
    simp [reading, asterisk]
  have parts : pattern.parts = (Text.join ['*'] (first :: pieces)).map partOf := by
    rw [← joined, ← read pattern.raw]
    rfl
  rw [parts, read, fits_join_iff plain]

/-- A pattern without asterisks matches the lines that have its own spelling up to case, and one
with asterisks those that have its pieces with no blank in the gaps between them, in either case
with a word boundary at both ends. -/
theorem isMatch_iff_language (pattern : ForbiddenPattern) (line : Text) :
    ('*' ∉ pattern.raw → (pattern.isMatch line = true ↔
      HasBounded (fun piece => piece.map foldCase = pattern.raw.map foldCase) line)) ∧
    ∀ first pieces, pieces ≠ [] → (∀ piece ∈ first :: pieces, '*' ∉ piece) →
      pattern.raw = Text.join ['*'] (first :: pieces) →
      (pattern.isMatch line = true ↔ HasBounded (StrungFrom first pieces) line) := by
  refine ⟨fun plain => ?_, fun first pieces several plain joined => ?_⟩
  · -- Only what the parts fit is said in another way.
    simp only [isMatch_iff, HasBounded, fits_reading_iff_of_plain plain]
  · simp only [isMatch_iff, HasBounded, fits_reading_iff_of_join several plain joined]

/-- A pattern with a letter that is not one of ASCII and two with such variants. -/
def casedPattern : ForbiddenPattern := ⟨"k-és", by decide⟩

/-- A pattern whose last asterisk may stand for nothing. -/
def gappedPattern : ForbiddenPattern := ⟨"bg-*-5*", by decide⟩

/-- Letters beyond ASCII are matched up to case and are no word characters, and a gap may have
hyphens. -/
theorem isMatch_iff_language_beyond_ascii :
    casedPattern.isMatch "a\u212a-É\u017fx" = true ∧
      gappedPattern.isMatch "(bg-é-5-5% 5)" = true := by
  have plain : '*' ∉ casedPattern.raw := by decide
  -- The Kelvin sign and the long s are folded to letters of ASCII.
  have cased : casedPattern.isMatch "a\u212a-É\u017fx" = true := by
    rw [(isMatch_iff_language casedPattern _).1 plain]
    exact ⟨"a", "\u212a-É\u017f", "x", rfl, by decide +kernel, by decide, by decide⟩
  -- The first gap takes a hyphen along, and the last one is empty.
  have gapped : gappedPattern.isMatch "(bg-é-5-5% 5)" = true := by
    rw [(isMatch_iff_language gappedPattern _).2 "bg-" ["-5", ""] (by simp) (by decide) rfl]
    have unblank : ("é-5" : Text).all (isBlank · = false) = true := by decide
    exact ⟨"(", "bg-é-5-5", "% 5)", rfl,
      ⟨[("é-5", "-5"), ("", "")], rfl, by simpa using unblank, rfl⟩, by decide, by decide⟩
  exact ⟨cased, gapped⟩

end ForbiddenPattern

end TokenGuard
