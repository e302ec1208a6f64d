import Mathlib.Data.List.Basic
import TokenGuard.Compliance
import TokenGuard.Proofs.Text.Lines

/-! What a scan reports of a text: every pattern in every line, and of two texts what it reports of
each of them. -/

namespace TokenGuard

variable {scanner : Scanner} {file : Path} {text : Text}

/-- A pattern of a scanner by its index, in a line of a text by its number. -/
structure Hit where
  number : Nat
  index : Nat
  line : Text
  pattern : ForbiddenPattern

namespace Hit

/-- A hit occurs in a text if the line and the pattern are what their numbers say, and the pattern
matches the line. -/
structure Occurs (scanner : Scanner) (text : Text) (hit : Hit) : Prop where
  line : Text.IsLine text hit.line hit.number
  pattern : scanner.patterns[hit.index]? = some hit.pattern
  isMatch : hit.pattern.isMatch hit.line = true

/-- Hits are ordered by their lines, and within a line by their patterns. -/
def Before (hit later : Hit) : Prop :=
  hit.number < later.number ∨ hit.number = later.number ∧ hit.index < later.index

/-- The violation that is reported for a hit. -/
def violation (file : Path) (hit : Hit) : Violation :=
  ⟨file, hit.number, hit.pattern.raw, excerpt hit.line⟩

end Hit

/-- A violation in a text that stands behind a number of other lines. -/
def Violation.behind (lines : Nat) (violation : Violation) : Violation :=
  { violation with line := violation.line + lines }

namespace Scanner

/-- The hits in a line. -/
def lineHits (scanner : Scanner) (number : Nat) (line : Text) : List Hit :=
  (scanner.patterns.zipIdx.filter fun (pattern, _) => pattern.isMatch line).map
    fun (pattern, index) => ⟨number, index, line, pattern⟩

/-- The hits in a text, line by line. -/
def hits (scanner : Scanner) (text : Text) : List Hit :=
  ((Text.lines text).zipIdx 1).flatMap fun (line, number) => scanner.lineHits number line

/-- The violations of a line are those of its hits. -/
theorem scanLine_eq_map (scanner : Scanner) (file : Path) (number : Nat) (line : Text) :
    scanner.scanLine file number line =
      (scanner.lineHits number line).map (Hit.violation file) := by
  -- Filtering the patterns with their indices filters the patterns.
  have patterns : scanner.patterns.filter (·.isMatch line) =
      (scanner.patterns.zipIdx.filter fun (pattern, _) => pattern.isMatch line).map Prod.fst := by
    have unnumbered := List.zipIdx_map_fst 0 scanner.patterns
    calc scanner.patterns.filter (·.isMatch line)
        = (scanner.patterns.zipIdx.map Prod.fst).filter (·.isMatch line) := by rw [unnumbered]
      _ = _ := List.filter_map
  rw [scanLine, patterns, lineHits, List.map_map, List.map_map]
  rfl

/-- The violations of a text are those of its hits. -/
theorem scanText_eq_map (scanner : Scanner) (file : Path) (text : Text) :
    scanner.scanText file text = (scanner.hits text).map (Hit.violation file) := by
  -- The text is scanned line by line, and so are its hits.
  rw [scanText, hits, List.map_flatMap]
  exact List.flatMap_congr fun line _ => scanLine_eq_map scanner file line.2 line.1

/-- The hits of a line are the patterns that match it. -/
theorem mem_lineHits_iff {number : Nat} {line : Text} {hit : Hit} :
    hit ∈ scanner.lineHits number line ↔ hit.number = number ∧ hit.line = line ∧
      scanner.patterns[hit.index]? = some hit.pattern ∧ hit.pattern.isMatch hit.line = true := by
  constructor
  · -- An index and a pattern stand together in the numbered list exactly if the pattern is found
    -- there.
    intro member
    obtain ⟨⟨pattern, index⟩, kept, rfl⟩ := List.mem_map.mp member
    obtain ⟨numbered, isMatch⟩ := List.mem_filter.mp kept
    exact ⟨rfl, rfl, List.mk_mem_zipIdx_iff_getElem?.mp numbered, isMatch⟩
  · rintro ⟨rfl, rfl, numbered, isMatch⟩
    refine List.mem_map.mpr ⟨(hit.pattern, hit.index), ?_, rfl⟩
    exact List.mem_filter.mpr ⟨List.mk_mem_zipIdx_iff_getElem?.mpr numbered, isMatch⟩

/-- A line of a text is one of those that are numbered from one on. -/
theorem mem_zipIdx_lines_iff {line : Text} {number : Nat} :
    (line, number) ∈ (Text.lines text).zipIdx 1 ↔ Text.IsLine text line number := by
  rw [List.mk_mem_zipIdx_iff_le_and_getElem?_sub, Text.lines, Text.getElem?_splitAt_iff]
  -- Lines are numbered from one on, and the pieces of a text from zero on.
  constructor
  · rintro ⟨positive, piece⟩
    exact ⟨number - 1, piece, (Nat.sub_add_cancel positive).symm⟩
  · rintro ⟨index, piece, rfl⟩
    exact ⟨Nat.le_add_left 1 index, piece⟩

/-- The hits of a text are those that occur in it. -/
theorem mem_hits_iff {hit : Hit} : hit ∈ scanner.hits text ↔ hit.Occurs scanner text := by
  rw [hits, List.mem_flatMap]
  -- A hit names its line and its pattern, and both are what their numbers say.
  constructor
  · rintro ⟨⟨line, number⟩, numbered, member⟩
    obtain ⟨rfl, rfl, pattern, isMatch⟩ := mem_lineHits_iff.mp member
    exact ⟨mem_zipIdx_lines_iff.mp numbered, pattern, isMatch⟩
  · rintro ⟨line, pattern, isMatch⟩
    exact ⟨(hit.line, hit.number), mem_zipIdx_lines_iff.mpr line,
      mem_lineHits_iff.mpr ⟨rfl, rfl, pattern, isMatch⟩⟩

/-- Numbers that are given to the members of a list ascend. -/
theorem zipIdx_pairwise_lt {α : Type} (members : List α) (start : Nat) :
    (members.zipIdx start).Pairwise fun member later => member.2 < later.2 := by
  rw [← List.pairwise_map, List.zipIdx_map_snd]
  exact List.pairwise_lt_range'

/-- The hits of a text stand in order, so none is listed twice. -/
theorem hits_pairwise (scanner : Scanner) (text : Text) :
    (scanner.hits text).Pairwise Hit.Before := by
  refine List.pairwise_flatMap.mpr ⟨fun ⟨line, number⟩ _ => ?_, ?_⟩
  · -- Within a line the indices of the patterns ascend.
    refine List.pairwise_map.mpr ?_
    exact ((zipIdx_pairwise_lt _ _).filter _).imp fun before => .inr ⟨rfl, before⟩
  · -- From line to line the numbers of the lines do.
    refine (zipIdx_pairwise_lt _ _).imp ?_
    intro former latter before hit ofFormer later ofLatter
    obtain ⟨number, -⟩ := mem_lineHits_iff.mp ofFormer
    obtain ⟨number', -⟩ := mem_lineHits_iff.mp ofLatter
    exact .inl (by omega)

/-- The violations of a line with a higher number are those of the line further down. -/
theorem scanLine_add (scanner : Scanner) (file : Path) (lines number : Nat) (line : Text) :
    scanner.scanLine file (number + lines) line =
      (scanner.scanLine file number line).map (Violation.behind lines) := by
  rw [scanLine, scanLine, List.map_map]
  rfl

/-- The violations of two texts with a line feed between them are those of the first one, and those
of the second one further down. -/
theorem scanText_append (scanner : Scanner) (file : Path) (a b : Text) :
    scanner.scanText file (a ++ '\n' :: b) = scanner.scanText file a ++
      (scanner.scanText file b).map (Violation.behind (1 + a.count '\n')) := by
  have lines : Text.lines (a ++ '\n' :: b) = Text.lines a ++ Text.lines b :=
    Text.splitAt_append_cons '\n' a b
  have before : (Text.lines a).length = 1 + a.count '\n' := by
    rw [Text.lines, Text.length_splitAt, Nat.add_comm]
  -- The lines of the second text are numbered behind those of the first one.
  have numbered : (Text.lines b).zipIdx (1 + (Text.lines a).length) =
      ((Text.lines b).zipIdx 1).map (Prod.map id (· + (1 + a.count '\n'))) := by
    rw [List.map_snd_add_zipIdx_eq_zipIdx, before, Nat.add_comm]
  rw [scanText, lines, List.zipIdx_append, List.flatMap_append, numbered, List.flatMap_map,
    scanText, scanText, List.map_flatMap]
  exact congrArg (_ ++ ·) (List.flatMap_congr fun line _ =>
    scanLine_add scanner file (1 + a.count '\n') line.2 line.1)

/-- A scan reports one violation for each pattern that matches a line, by the numbers of the lines
and then in the order of the patterns; and of two texts with a line feed between them it reports
what it reports of each, with the lines of the second one numbered behind those of the first. -/
theorem scanText_lists_hits (scanner : Scanner) (file : Path) :
    (∀ text, ∃ hits : List Hit, hits.Pairwise Hit.Before ∧
      (∀ hit, hit ∈ hits ↔ hit.Occurs scanner text) ∧
      scanner.scanText file text = hits.map (Hit.violation file)) ∧
    ∀ a b, scanner.scanText file (a ++ '\n' :: b) = scanner.scanText file a ++
      (scanner.scanText file b).map (Violation.behind (1 + a.count '\n')) := by
  -- The hits that were collected are the ones that the scan reports.
  refine ⟨fun text => ?_, scanText_append scanner file⟩
  exact ⟨scanner.hits text, scanner.hits_pairwise text, fun _ => mem_hits_iff,
    scanner.scanText_eq_map file text⟩

end Scanner

end TokenGuard
