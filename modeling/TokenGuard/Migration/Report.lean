import TokenGuard.Json.Printer
import TokenGuard.Path
import TokenGuard.Text.Sorted

/-! What a migration did to each file, and what it comes to as a whole. -/

namespace TokenGuard

/-- How a migration is carried out. -/
structure MigrationOptions where
  /-- Nothing is written. -/
  dryRun : Bool
  /-- Residual tokens are a failure. -/
  strict : Bool
  deriving DecidableEq

/-- What a migration did to one file. -/
structure FileMigration where
  /-- The file as it is shown. -/
  file : Path
  replacements : Nat
  /-- The residual tokens of the migrated text. -/
  unmapped : List Text
  /-- What went wrong. -/
  errors : List Text
  /-- Whether the file was written. -/
  written : Bool
  deriving DecidableEq

/-- What a migration did. -/
structure MigrationReport where
  options : MigrationOptions
  filesScanned : Nat
  totalReplacements : Nat
  files : List FileMigration
  /-- The files with residual tokens. -/
  filesWithUnmapped : List Path
  /-- The residual tokens of all files. -/
  unmapped : SortedTexts
  errors : List Text
  deriving DecidableEq

/-- What a migration comes to. -/
inductive MigrationOutcome
  /-- No legacy name is left. -/
  | completed
  /-- Residual tokens are left, and tolerated. -/
  | completedWithWarnings
  /-- Residual tokens are left, and not tolerated. -/
  | failedUnmapped
  /-- Something could not be read or written. -/
  | failedErrors
  deriving DecidableEq

namespace MigrationOutcome

/-- The name of an outcome. -/
def name : MigrationOutcome → Text
  | completed => "completed"
  | completedWithWarnings => "completed_with_warnings"
  | failedUnmapped => "failed_unmapped"
  | failedErrors => "failed_errors"

/-- What a program that ran the migration answers to its caller. -/
def exitCode : MigrationOutcome → Nat
  | completed | completedWithWarnings => 0
  | failedUnmapped | failedErrors => 1

/-- The wording of an outcome. -/
def message : MigrationOutcome → Text
  | completed => "Migration complete: all patterns migrated"
  | completedWithWarnings => "Migration complete with warnings: some patterns unmapped"
  | failedUnmapped => "Migration failed: unmapped patterns found (strict mode)"
  | failedErrors => "Migration failed: errors occurred"

end MigrationOutcome

namespace FileMigration

/-- A file that could not be read. -/
def unreadable (file : Path) (error : Text) : FileMigration := ⟨file, 0, [], [error], false⟩

/-- An error of a file, with the file before it. -/
def located (migrated : FileMigration) (error : Text) : Text := migrated.file ++ ": " ++ error

/-- What was done to a file, as a value. -/
def toValue (migrated : FileMigration) : Json.Value :=
  .object [("file", .string migrated.file),
    ("replacements", .ofNat migrated.replacements),
    ("unmapped", .ofTexts migrated.unmapped),
    ("errors", .ofTexts migrated.errors),
    ("written", .boolean migrated.written)]

end FileMigration

namespace MigrationReport

/-- The report before any file, with what went wrong in finding the files. -/
def start (options : MigrationOptions) (errors : List Text) : MigrationReport :=
  ⟨options, 0, 0, [], [], .empty, errors⟩

/-- A report with one more file. -/
def record (report : MigrationReport) (migrated : FileMigration) : MigrationReport :=
  { report with
    filesScanned := report.filesScanned + 1
    totalReplacements := report.totalReplacements + migrated.replacements
    files := report.files ++ [migrated]
    filesWithUnmapped :=
      if migrated.unmapped.isEmpty then report.filesWithUnmapped
      else report.filesWithUnmapped ++ [migrated.file]
    unmapped := report.unmapped.insertAll migrated.unmapped
    errors := report.errors ++ migrated.errors.map migrated.located }

/-- What the migration comes to; residual tokens in strict mode weigh more than errors. -/
def outcome (report : MigrationReport) : MigrationOutcome :=
  if report.options.strict && !report.unmapped.isEmpty then .failedUnmapped
  else if !report.errors.isEmpty then .failedErrors
  else if !report.unmapped.isEmpty then .completedWithWarnings
  else .completed

/-- A report as a value. -/
def toValue (report : MigrationReport) : Json.Value :=
  .object [("dry_run", .boolean report.options.dryRun),
    ("strict", .boolean report.options.strict),
    ("files_scanned", .ofNat report.filesScanned),
    ("total_replacements", .ofNat report.totalReplacements),
    ("files", .array (report.files.map FileMigration.toValue)),
    ("files_with_unmapped", .ofTexts report.filesWithUnmapped),
    ("unmapped", .ofTexts report.unmapped.elements),
    ("errors", .ofTexts report.errors)]

end MigrationReport

end TokenGuard
