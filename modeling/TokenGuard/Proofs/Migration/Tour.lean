import TokenGuard.Migration.Run
import TokenGuard.Proofs.Migration.Account

/-! Running a migration visits the files one after the other; whatever reading and writing them
comes to, the report accounts for every visit, and only a run on which nothing went wrong answers
zero. -/

namespace TokenGuard

variable {σ : Type} {fs : FileSystem (StateM σ)} {migration : Migration}
  {options : MigrationOptions} {root : Path} {s s' : σ}

/-- What happened to a file: what reading it came to, and writing it if it was written. -/
structure Visit where
  path : Path
  reading : Except FileError Text
  writing : Option (Except FileError Unit)

namespace Visit

/-- The errors of a visit. -/
def faults (visit : Visit) : List FileError :=
  match visit.reading, visit.writing with
  | .error error, _ => [error]
  | .ok _, some (.error error) => [error]
  | .ok _, _ => []

/-- What is reported of a visit. -/
def entry (migration : Migration) (root : Path) (visit : Visit) : FileMigration :=
  let shown := Path.relativeTo root visit.path
  let errors := visit.faults.map FileError.message
  match visit.reading with
  | .error _ => ⟨shown, 0, [], errors, false⟩
  | .ok text =>
    let migrated := migration.migrateText text
    ⟨shown, migrated.replacements, migrated.unmapped, errors, visit.writing matches some (.ok ())⟩

/-- A visit takes place between two states of the files: the file is read, and if its text can be
read, changes by the migration and is no dry run, the migrated text is written. -/
inductive Occurs (fs : FileSystem (StateM σ)) (migration : Migration) (options : MigrationOptions) :
    σ → Visit → σ → Prop
  /-- The file cannot be read. -/
  | unread {s s' : σ} {path : Path} {error : FileError}
      (read : (fs.read path).run s = (.error error, s')) :
      Occurs fs migration options s ⟨path, .error error, none⟩ s'
  /-- The file is left as it is. -/
  | kept {s s' : σ} {path : Path} {text : Text}
      (read : (fs.read path).run s = (.ok text, s'))
      (settled : (migration.migrateText text).content = text ∨ options.dryRun = true) :
      Occurs fs migration options s ⟨path, .ok text, none⟩ s'
  /-- The migrated text is written, with or without success. -/
  | written {s s' s'' : σ} {path : Path} {text : Text} {result : Except FileError Unit}
      (read : (fs.read path).run s = (.ok text, s'))
      (changed : (migration.migrateText text).content ≠ text) (real : options.dryRun = false)
      (write : (fs.write path (migration.migrateText text).content).run s' = (result, s'')) :
      Occurs fs migration options s ⟨path, .ok text, some result⟩ s''

/-- Migrating a file is a visit, and gives what is reported of it. -/
theorem exists_occurs (fs : FileSystem (StateM σ)) (migration : Migration)
    (options : MigrationOptions) (root path : Path) (s : σ) :
    ∃ visit s', visit.path = path ∧ Occurs fs migration options s visit s' ∧
      (migration.migrateFile fs options path (Path.relativeTo root path)).run s =
        (visit.entry migration root, s') := by
  obtain ⟨reading, s', read⟩ : ∃ reading s', (fs.read path).run s = (reading, s') := ⟨_, _, rfl⟩
  rw [Migration.migrateFile, StateT.run_bind, read]
  cases reading with
  | error error => exact ⟨⟨path, .error error, none⟩, s', rfl, .unread read, rfl⟩
  | ok text =>
    -- The text is written only where both conditions of doing so hold.
    show ∃ visit s'', _ ∧ _ ∧ (migration.migrateContent fs options path _ text).run s' = _
    rw [Migration.migrateContent]
    by_cases settled : (migration.migrateText text).content = text ∨ options.dryRun = true
    · -- Nothing is written, and the state is the one that reading left.
      have left : (decide ((migration.migrateText text).content = text) || options.dryRun) = true :=
        by simpa using settled
      refine ⟨⟨path, .ok text, none⟩, s', rfl, .kept read settled, ?_⟩
      simp only [left, if_true]
      rfl
    · have changed : ¬ (decide ((migration.migrateText text).content = text) ||
          options.dryRun) = true := by simpa using settled
      -- The text is written, and what comes of it is reported.
      obtain ⟨different, real⟩ := not_or.mp settled
      obtain ⟨result, s'', write⟩ : ∃ result s'',
        (fs.write path (migration.migrateText text).content).run s' = (result, s'') := ⟨_, _, rfl⟩
      refine ⟨⟨path, .ok text, some result⟩, s'', rfl,
        .written read different ((Bool.not_eq_true _).mp real) write, ?_⟩
      simp only [if_neg changed]
      rw [StateT.run_bind, write]
      cases result with
      | error error => rfl
      | ok done => rfl

end Visit

/-- Visits one after the other, each in the state that the one before it left. -/
inductive Tour (fs : FileSystem (StateM σ)) (migration : Migration) (options : MigrationOptions) :
    σ → List Visit → σ → Prop
  /-- The tour is over. -/
  | finished {s : σ} : Tour fs migration options s [] s
  /-- One more visit comes first. -/
  | next {s s' s'' : σ} {visit : Visit} {visits : List Visit}
      (first : visit.Occurs fs migration options s s')
      (others : Tour fs migration options s' visits s'') :
      Tour fs migration options s (visit :: visits) s''

/-- Running a migration is a tour of its files, and records what is reported of each visit. -/
theorem Migration.exists_tour (fs : FileSystem (StateM σ)) (migration : Migration)
    (options : MigrationOptions) (root : Path) (found : SourceFiles) (s : σ) :
    ∃ visits s', Tour fs migration options s visits s' ∧ visits.map (·.path) = found.files ∧
      (migration.run fs options root found).run s =
        ((visits.map (·.entry migration root)).foldl MigrationReport.record
          (.start options found.errors), s') := by
  -- The files are visited in order, whatever has been recorded before.
  unfold run
  generalize MigrationReport.start options found.errors = report, found.files = files
  induction files generalizing report s with
  | nil => exact ⟨[], s, .finished, rfl, rfl⟩
  | cons path files ih =>
    obtain ⟨visit, s', rfl, first, migrated⟩ :=
      Visit.exists_occurs fs migration options root path s
    obtain ⟨visits, s'', others, rfl, reported⟩ :=
      ih s' (report.record (visit.entry migration root))
    refine ⟨visit :: visits, s'', .next first others, rfl, ?_⟩
    rw [List.foldlM_cons, StateT.run_bind, StateT.run_bind, migrated]
    exact reported

/-- Recording visits one after the other accounts for all of them. -/
theorem accounts_foldl_entry (migration : Migration) (options : MigrationOptions) (root : Path)
    (visits : List Visit) (errors : List Text) :
    ((visits.map (·.entry migration root)).foldl MigrationReport.record
      (.start options errors)).Accounts options errors (visits.map (·.entry migration root)) :=
  MigrationReport.accounts_start.foldl_record _

/-- A report on files that are told of visits shows an error exactly where a visit met one. -/
theorem Visit.errors_entry_eq_nil_iff {visit : Visit} :
    (visit.entry migration root).errors = [] ↔ visit.faults = [] := by
  obtain ⟨path, reading, writing⟩ := visit
  cases reading <;> simp [entry]

/-- What is reported of a visit has residual tokens exactly if the file could be read and its
migrated text has some. -/
theorem Visit.unmapped_entry_eq_nil_iff {visit : Visit} :
    (visit.entry migration root).unmapped = [] ↔ ∀ text, visit.reading = .ok text →
      migration.detector.detect (migration.migrateText text).content = [] := by
  obtain ⟨path, reading, writing⟩ := visit
  cases reading with
  | error error => simp [entry]
  | ok text => simp [entry, Migration.migrateText]

/-- Whatever the files are and whatever reading and writing them comes to, running a migration is a
tour of all its files; its report accounts for each visit and for what went wrong in finding the
files, and a program that runs it answers zero exactly if nothing went wrong anywhere and, in strict
mode, no migrated text has residual tokens. -/
theorem run_accounts (fs : FileSystem (StateM σ)) (migration : Migration)
    (options : MigrationOptions) (root : Path) (found : SourceFiles) (s : σ) :
    ∃ visits report s', Tour fs migration options s visits s' ∧
      visits.map (·.path) = found.files ∧
      (migration.run fs options root found).run s = (report, s') ∧
      report.Accounts options found.errors (visits.map (·.entry migration root)) ∧
      (report.outcome.exitCode = 0 ↔
        found.errors = [] ∧ (∀ visit ∈ visits, visit.faults = []) ∧
        (options.strict = false ∨ ∀ visit ∈ visits, ∀ text, visit.reading = .ok text →
          migration.detector.detect (migration.migrateText text).content = [])) := by
  -- The run is a tour, and its report is made from the visits alone.
  obtain ⟨visits, s', tour, files, ran⟩ := Migration.exists_tour fs migration options root found s
  have accounts := accounts_foldl_entry migration options root visits found.errors
  refine ⟨visits, _, s', tour, files, ran, accounts, ?_⟩
  -- Each condition on the report is one on the entries, and each of those one on the visits.
  rw [MigrationReport.exitCode_eq_zero_iff, accounts.errors_eq_nil_iff,
    accounts.unmapped_isEmpty_iff, accounts.options, and_assoc]
  simp only [List.forall_mem_map, Visit.errors_entry_eq_nil_iff, Visit.unmapped_entry_eq_nil_iff]

end TokenGuard
