import Mathlib.Algebra.Ring.Nat
import TokenGuard.Migration.Report

/-! A migration report accounts for every file that was recorded: each number, list and set in it is
that of all files together. -/

namespace TokenGuard

namespace MigrationReport

variable {report other : MigrationReport} {options : MigrationOptions} {errors : List Text}
  {files : List FileMigration} {file : FileMigration}

/-- A report accounts for recorded files, and for what went wrong before any of them. Every error of a
file stands behind what went wrong before, with the file, a colon and a blank in front of it. -/
structure Accounts (report : MigrationReport) (chosen : MigrationOptions) (earlier : List Text)
    (recorded : List FileMigration) : Prop where
  options : report.options = chosen
  filesScanned : report.filesScanned = recorded.length
  totalReplacements : report.totalReplacements = (recorded.map (·.replacements)).sum
  files : report.files = recorded
  filesWithUnmapped : report.filesWithUnmapped =
    (recorded.filter fun file => !file.unmapped.isEmpty).map (·.file)
  unmapped : ∀ token, token ∈ report.unmapped.elements ↔
    ∃ file ∈ recorded, token ∈ file.unmapped
  errors : report.errors =
    earlier ++ recorded.flatMap fun file => file.errors.map fun error => file.file ++ ": " ++ error

/-- The report before any file accounts for none. -/
theorem accounts_start : (start options errors).Accounts options errors [] where
  options := rfl
  filesScanned := rfl
  totalReplacements := rfl
  files := rfl
  filesWithUnmapped := rfl
  unmapped token := by simp [start, SortedTexts.empty]
  errors := by simp [start]

/-- A report with one more file accounts for that one too. -/
theorem Accounts.record (accounts : report.Accounts options errors files) (file : FileMigration) :
    (report.record file).Accounts options errors (files ++ [file]) where
  options := accounts.options
  filesScanned := by
    show report.filesScanned + 1 = _
    rw [accounts.filesScanned, List.length_append, List.length_singleton]
  totalReplacements := by
    show report.totalReplacements + file.replacements = _
    rw [accounts.totalReplacements, List.map_append, List.sum_append, List.map_singleton,
      List.sum_singleton]
  files := by
    show report.files ++ [file] = _
    rw [accounts.files]
  filesWithUnmapped := by
    show (if file.unmapped.isEmpty then _ else _) = _
    rw [accounts.filesWithUnmapped, List.filter_append, List.map_append]
    -- The file is listed exactly if it has residual tokens.
    by_cases none : file.unmapped.isEmpty = true <;> simp [none]
  unmapped token := by
    show token ∈ (report.unmapped.insertAll file.unmapped).elements ↔ _
    rw [SortedTexts.mem_insertAll, accounts.unmapped]
    constructor
    · intro found
      rcases found with ⟨earlier, member, inFile⟩ | inFile
      · exact ⟨earlier, List.mem_append_left _ member, inFile⟩
      · exact ⟨file, List.mem_append_right _ (List.mem_singleton_self file), inFile⟩
    · intro found
      obtain ⟨recorded, member, inFile⟩ := found
      rcases List.mem_append.mp member with earlier | last
      · -- A token of the report is one of an earlier file or of the one that was added.
        exact .inl ⟨recorded, earlier, inFile⟩
      · rw [List.mem_singleton.mp last] at inFile
        exact .inr inFile
  errors := by
    show report.errors ++ file.errors.map file.located = _
    rw [accounts.errors, List.flatMap_append, List.append_assoc, List.flatMap_singleton]
    rfl

/-- Recording files one after the other leaves a report that accounts for all of them. -/
theorem Accounts.foldl_record (accounts : report.Accounts options errors files)
    (more : List FileMigration) :
    (more.foldl MigrationReport.record report).Accounts options errors (files ++ more) := by
  -- Each file is recorded in a report that accounts for those before it.
  induction more generalizing report files with
  | nil =>
    rw [List.append_nil]
    exact accounts
  | cons file more ih =>
    rw [List.append_cons]
    exact ih (accounts.record file)

/-- There is only one report that accounts for given files. -/
theorem Accounts.unique (left : report.Accounts options errors files)
    (right : other.Accounts options errors files) : report = other := by
  -- The tokens are collected in order, so their members determine them.
  have unmapped : report.unmapped = other.unmapped :=
    SortedTexts.eq_of_mem_iff fun token => (left.unmapped token).trans (right.unmapped token).symm
  cases report
  cases other
  cases left
  cases right
  simp_all

/-- A program that runs a migration answers zero exactly if nothing went wrong and, in strict mode,
no residual tokens are left. -/
theorem exitCode_eq_zero_iff : report.outcome.exitCode = 0 ↔
    report.errors = [] ∧ (report.options.strict = false ∨ report.unmapped.isEmpty = true) := by
  -- Residual tokens in strict mode weigh more than errors, but both are failures.
  have faultless : report.errors = [] ↔ report.errors.isEmpty = true := List.isEmpty_iff.symm
  rw [faultless, outcome]
  cases report.options.strict <;> cases report.errors.isEmpty <;>
    cases report.unmapped.isEmpty <;> decide

/-- A report that accounts for files has no residual tokens exactly if none of the files has. -/
theorem Accounts.unmapped_isEmpty_iff (accounts : report.Accounts options errors files) :
    report.unmapped.isEmpty = true ↔ ∀ file ∈ files, file.unmapped = [] := by
  rw [SortedTexts.isEmpty, List.isEmpty_iff, List.eq_nil_iff_forall_not_mem]
  constructor
  · -- The report has every token of every file.
    intro none file member
    refine List.eq_nil_iff_forall_not_mem.mpr ?_
    intro token inFile
    exact none token ((accounts.unmapped token).mpr ⟨file, member, inFile⟩)
  · -- It has no token that is not of some file.
    intro none token found
    obtain ⟨file, member, inFile⟩ := (accounts.unmapped token).mp found
    rw [none file member] at inFile
    exact List.not_mem_nil inFile

/-- A report that accounts for files has no errors exactly if nothing went wrong before them and
none of them has errors. -/
theorem Accounts.errors_eq_nil_iff (accounts : report.Accounts options errors files) :
    report.errors = [] ↔ errors = [] ∧ ∀ file ∈ files, file.errors = [] := by
  rw [accounts.errors, List.append_eq_nil_iff, List.flatMap_eq_nil_iff]
  simp only [List.map_eq_nil_iff]

end MigrationReport

end TokenGuard
