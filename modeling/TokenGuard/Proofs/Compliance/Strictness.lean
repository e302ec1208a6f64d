import TokenGuard.Compliance
import TokenGuard.Disk
import TokenGuard.Proofs.Compliance.Match
import TokenGuard.Proofs.Residual.Detection

/-! A forbidden legacy lead is found in every line with a residual token of that lead, unless the
lead is followed by one more hyphen. -/

namespace TokenGuard

variable {pattern : ForbiddenPattern} {line token lead text : Text} {scanner : Scanner}
  {root file : Path} {disk : Disk}

/-- A tail character that is not a hyphen is one of a word. -/
theorem isAsciiWord_of_isLegacyTail {c : Char} (tail : isLegacyTail c = true) (other : c ≠ '-') :
    isAsciiWord c = true := by
  -- Tail characters are those of names, which are word characters and the hyphen.
  have name := isNameCharacter_of_isLegacyTail tail
  simp only [isNameCharacter, other, decide_false, Bool.or_false] at name
  simp [isAsciiWord, name]

/-- A token that is reported for a lead alone is the lead at a word boundary, with a tail. -/
theorem exists_of_mem_detect
    (found : token ∈ (⟨lead, .none⟩ : ResidualDetector).detect line) :
    ∃ left right, line = left ++ lead ++ right ∧
      atBoundary isAsciiWord left.getLast? (lead ++ right).head? = true ∧
      right.takeWhile isLegacyTail ≠ [] ∧ token = lead ++ right.takeWhile isLegacyTail := by
  rw [ResidualDetector.mem_detect_iff] at found
  obtain ⟨token?, member, found⟩ := found
  -- Without a palette there is nothing else to look for.
  obtain rfl : token? = legacyToken? lead := by
    simpa [ResidualDetector.finders, RawPalette.none, RawPalette.isEmpty] using member
  obtain ⟨left, rest, rfl, boundary, here⟩ := exists_place_of_mem_scanTokens found
  obtain ⟨right, rfl, filled, rfl⟩ := Finder.legacyToken_eq_some_iff.mp here
  exact ⟨left, right, by simp, by simpa [Text.lastOr] using boundary, filled, rfl⟩

/-- A pattern that ends with a hyphen matches every line with a token that starts with it, unless
one more hyphen follows. -/
theorem isMatch_of_mem_detect (ends : pattern.raw.getLast? = some '-')
    (found : token ∈ (⟨pattern.raw, .none⟩ : ResidualDetector).detect line)
    (single : ¬ pattern.raw ++ ['-'] <+: token) : pattern.isMatch line = true := by
  obtain ⟨left, right, rfl, opened, filled, rfl⟩ := exists_of_mem_detect found
  refine ForbiddenPattern.isMatch_iff.mpr
    ⟨left, pattern.raw, right, rfl, pattern.fits_reading, opened, ?_⟩
  -- The tail starts with a letter or a digit, where the hyphen of the lead is left.
  cases right with
  | nil => simp at filled
  | cons c right =>
    have tail : isLegacyTail c = true := by
      by_contra other
      simp [other] at filled
    have other : c ≠ '-' := by
      rintro rfl
      exact single ((List.prefix_append_right_inj _).mpr (by simp [tail]))
    have word := isAsciiWord_of_isLegacyTail tail other
    have hyphen : isAsciiWord '-' = false := by decide
    simp [atBoundary, List.getLast?_append, ends, word, hyphen]

namespace Scanner

/-- A text has no violation exactly if no line of it matches a pattern. -/
theorem scanText_eq_nil_iff : scanner.scanText file text = [] ↔
    ∀ line ∈ Text.lines text, ∀ pattern ∈ scanner.patterns, pattern.isMatch line = false := by
  have each : ∀ number line, scanner.scanLine file number line = [] ↔
      ∀ pattern ∈ scanner.patterns, pattern.isMatch line = false := by
    intro number line
    simp [scanLine]
  rw [scanText, List.flatMap_eq_nil_iff]
  constructor
  · -- A line stands in the numbered list under some number.
    intro none line member
    rw [← List.zipIdx_map_fst 1 (Text.lines text)] at member
    obtain ⟨⟨line, number⟩, numbered, rfl⟩ := List.mem_map.mp member
    exact (each number line).mp (none _ numbered)
  · rintro none ⟨line, number⟩ numbered
    exact (each number line).mpr (none line (List.fst_mem_of_mem_zipIdx numbered))

/-- The report after one more file of a disk. -/
def recordFile (scanner : Scanner) (root : Path) (disk : Disk) (report : ComplianceReport)
    (path : Path) : ComplianceReport :=
  match disk.readText path with
  | .ok text => scanner.recordText report (Path.relativeTo root path) text
  | .error fault => recordError report (.read path fault)

/-- Scanning a disk leaves it as it is, and records one file after the other. -/
theorem run_scan (found : SourceFiles) :
    (scanner.scan Disk.fileSystem root found).run disk =
      (found.files.foldl (scanner.recordFile root disk) (scanner.start found.errors), disk) := by
  unfold scan
  generalize scanner.start found.errors = report, found.files = files
  induction files generalizing report with
  | nil => rfl
  | cons path files ih =>
    -- The first file is read from the disk, which stays.
    rw [List.foldlM_cons, StateT.run_bind, List.foldl_cons, ← ih]
    cases read : disk.readText path <;>
      simp [recordFile, FileSystem.read, Disk.fileSystem, read, Except.mapError]

/-- A report is clean after one more file only if it was before, and the file could be read and has
no violation. -/
theorem isClean_recordFile {report : ComplianceReport} {path : Path}
    (clean : (scanner.recordFile root disk report path).isClean = true) :
    report.isClean = true ∧ ∃ text, disk.readText path = .ok text ∧
      scanner.scanText (Path.relativeTo root path) text = [] := by
  unfold recordFile at clean
  cases read : disk.readText path with
  -- A file that cannot be read is recorded as an error, which no clean report has.
  | error fault => simp [read, recordError, ComplianceReport.isClean] at clean
  | ok text =>
    simp only [read, recordText, ComplianceReport.isClean, Bool.and_eq_true, List.isEmpty_iff,
      List.append_eq_nil_iff] at clean ⊢
    exact ⟨⟨clean.1.1, clean.2⟩, text, rfl, clean.1.2⟩

/-- A clean scan has read every file and found no violation in it. -/
theorem exists_of_isClean {found : SourceFiles} {path : Path}
    (clean : ((scanner.scan Disk.fileSystem root found).run disk).1.isClean = true)
    (member : path ∈ found.files) : ∃ text, disk.readText path = .ok text ∧
      scanner.scanText (Path.relativeTo root path) text = [] := by
  rw [run_scan] at clean
  -- Going down the files, a report that is clean in the end was clean all along.
  have all : ∀ (files : List Path) (report : ComplianceReport),
      (files.foldl (scanner.recordFile root disk) report).isClean = true →
        report.isClean = true ∧ ∀ path ∈ files, ∃ text, disk.readText path = .ok text ∧
          scanner.scanText (Path.relativeTo root path) text = [] := by
    intro files
    induction files with
    | nil => simp
    | cons first files ih =>
      intro report clean
      obtain ⟨after, rest⟩ := ih _ clean
      obtain ⟨before, here⟩ := isClean_recordFile after
      exact ⟨before, List.forall_mem_cons.mpr ⟨here, rest⟩⟩
  exact (all _ _ clean).2 path member

end Scanner

/-- A forbidden pattern that ends with a hyphen matches every line with a residual token of that
lead, unless one more hyphen follows the lead; so where a scan for it is clean, every residual token
in a line of a file is of this kind. -/
theorem residual_forbidden (ends : pattern.raw.getLast? = some '-') :
    (∀ line token, token ∈ (⟨pattern.raw, .none⟩ : ResidualDetector).detect line →
        ¬ pattern.raw ++ ['-'] <+: token → pattern.isMatch line = true) ∧
      ∀ (scanner : Scanner) (root : Path) (found : SourceFiles) (disk : Disk),
        pattern ∈ scanner.patterns →
        ((scanner.scan Disk.fileSystem root found).run disk).1.isClean = true →
        ∀ path ∈ found.files, ∃ text, disk.readText path = .ok text ∧
          ∀ line ∈ Text.lines text, ∀ token ∈ (⟨pattern.raw, .none⟩ : ResidualDetector).detect line,
            pattern.raw ++ ['-'] <+: token := by
  have strict : ∀ line token, token ∈ (⟨pattern.raw, .none⟩ : ResidualDetector).detect line →
      ¬ pattern.raw ++ ['-'] <+: token → pattern.isMatch line = true :=
    fun line token => isMatch_of_mem_detect ends
  refine ⟨strict, fun scanner root found disk forbidden clean path member => ?_⟩
  obtain ⟨text, read, none⟩ := Scanner.exists_of_isClean clean member
  refine ⟨text, read, fun line ofText token ofLine => ?_⟩
  -- Otherwise the line would be a violation.
  have unmatched := Scanner.scanText_eq_nil_iff.mp none line ofText pattern forbidden
  refine Decidable.byContradiction fun single => ?_
  simp [strict line token ofLine single] at unmatched

/-- The lead of legacy names as a pattern. -/
def leadPattern : ForbiddenPattern := ⟨"na-", by decide⟩

/-- The lead of legacy names is found where a legacy class stands. -/
theorem residual_forbidden_sample :
    leadPattern.raw.getLast? = some '-' ∧
      leadPattern.isMatch "<p class=\"NA-x na-p-4\">" = true := by
  -- The class in small letters is the token, whatever stands in front of it.
  have ends : leadPattern.raw.getLast? = some '-' := by decide +kernel
  exact ⟨ends, (residual_forbidden ends).1 _ "na-p-4" (by decide +kernel) (by decide +kernel)⟩

/-- The lead of a name, and the hyphen that legacy names have at its end. -/
def IsLegacyLead (lead : Text) : Prop :=
  ∃ first rest, first.isAlpha = true ∧ rest.all Char.isAlphanum = true ∧
    lead = first :: (rest ++ ['-'])

/-- A line may have a residual token though its lead is forbidden, if two hyphens follow one
another. -/
theorem not_forbidden_of_hyphens :
    ¬ ∀ (pattern : ForbiddenPattern) (line : Text), IsLegacyLead pattern.raw → '\n' ∉ line →
      (⟨pattern.raw, .none⟩ : ResidualDetector).detect line ≠ [] →
      pattern.isMatch line = true := by
  intro all
  -- The boundary behind the lead is missing between two hyphens.
  have matched := all leadPattern "na--x" ⟨'n', ['a'], by decide, by decide, rfl⟩ (by decide)
    (by decide +kernel)
  exact absurd matched (by decide +kernel)

end TokenGuard
