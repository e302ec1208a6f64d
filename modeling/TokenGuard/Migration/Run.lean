import TokenGuard.Migration
import TokenGuard.Migration.Report
import TokenGuard.SourceTree

/-! Running a migration over files: each is read, migrated and, if it changed, written. -/

namespace TokenGuard.Migration

variable {m : Type → Type} [Monad m]

/-- Migrate the text of a file, which is written only if it changed and this is no dry run. -/
def migrateContent (fs : FileSystem m) (migration : Migration) (options : MigrationOptions)
    (path shown : Path) (content : Text) : m FileMigration := do
  let migrated := migration.migrateText content
  let done : FileMigration := ⟨shown, migrated.replacements, migrated.unmapped, [], false⟩
  if migrated.content = content || options.dryRun then return done
  match ← fs.write path migrated.content with
  | .ok () => return { done with written := true }
  | .error error => return { done with errors := [error.message] }

/-- Migrate a file; what goes wrong is part of the result. -/
def migrateFile (fs : FileSystem m) (migration : Migration) (options : MigrationOptions)
    (path shown : Path) : m FileMigration := do
  match ← fs.read path with
  | .ok content => migration.migrateContent fs options path shown content
  | .error error => return .unreadable shown error.message

/-- Migrate files in order, shown as they are seen from a root. -/
def run (fs : FileSystem m) (migration : Migration) (options : MigrationOptions) (root : Path)
    (found : SourceFiles) : m MigrationReport :=
  found.files.foldlM (fun report path => do
    return report.record (← migration.migrateFile fs options path (Path.relativeTo root path)))
    (.start options found.errors)

end TokenGuard.Migration
