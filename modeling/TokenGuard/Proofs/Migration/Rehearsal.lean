import TokenGuard.Proofs.Except
import TokenGuard.Proofs.FileSystem.Disk
import TokenGuard.Proofs.Migration.Exhaustive
import TokenGuard.Proofs.Migration.Tour

/-! A dry run of a migration changes no file and foretells the report of the run that writes, which
changes every listed file by the migration of its text and no other file. -/

namespace TokenGuard

variable {σ : Type} {fs : FileSystem (StateM σ)} {migration : Migration}
  {options : MigrationOptions} {root : Path} {s s' : σ}
  {content : σ → Path → Except FileFault Text} {sound : σ → Prop} {listed : List Path}

namespace Migration

/-- What a file holds after a run, given what it held before. -/
def outcomeOf (migration : Migration) (options : MigrationOptions)
    (held : Except FileFault Text) : Except FileFault Text :=
  if options.dryRun then held else held.map fun text => (migration.migrateText text).content

/-- Whether a migration changes what a file holds. -/
def changes (migration : Migration) : Except FileFault Text → Bool
  | .ok text => (migration.migrateText text).content ≠ text
  | .error _ => false

/-- A file that the migration does not change holds after a run what it held before. -/
theorem outcomeOf_of_not_changes {held : Except FileFault Text}
    (same : migration.changes held = false ∨ options.dryRun = true) :
    migration.outcomeOf options held = held := by
  -- A text that stays as it is and a dry run come to the same.
  rcases same with same | dry
  · cases held with
    | error fault => simp [outcomeOf, Except.map]
    | ok text =>
      have same : (migration.migrateText text).content = text := by simpa [changes] using same
      simp [outcomeOf, Except.map, same]
  · simp [outcomeOf, dry]

end Migration

/-- The visit of a file that holds something, where writing succeeds. -/
def Visit.foreseen (migration : Migration) (options : MigrationOptions) (path : Path)
    (held : Except FileFault Text) : Visit :=
  ⟨path, held.mapError (.read path),
    if migration.changes held && !options.dryRun then some (.ok ()) else none⟩

/-- A visit of a listed file is the one that was to be foreseen, and it changes what this file holds
and nothing else. -/
theorem Visit.Occurs.foreseen {visit : Visit} (acts : ActsAsMap fs content sound listed)
    (start : sound s) (member : visit.path ∈ listed)
    (occurs : visit.Occurs fs migration options s s') :
    visit = .foreseen migration options visit.path (content s visit.path) ∧ sound s' ∧
      content s' = fun other =>
        if other = visit.path then migration.outcomeOf options (content s other)
        else content s other := by
  -- Where nothing is written, every file holds what it held.
  have untouched : ∀ {path : Path}, migration.changes (content s path) = false ∨
      options.dryRun = true → content s = fun other =>
        if other = path then migration.outcomeOf options (content s other)
        else content s other := by
    intro path settled
    funext other
    split
    · next same => rw [same, Migration.outcomeOf_of_not_changes settled]
    · rfl
  cases occurs with
  | @unread _ path error read =>
    -- A file that cannot be read stays as it is.
    obtain ⟨failed, kept, same⟩ := acts.of_read start member read
    have unchanged : migration.changes (content s path) = false := by
      cases holds : content s path with
      | error fault => rfl
      | ok text => simp [holds, Except.mapError] at failed
    refine ⟨?_, kept, same.trans (untouched (.inl unchanged))⟩
    rw [failed, Visit.foreseen, unchanged]
    rfl
  | @kept _ path text read settled =>
    obtain ⟨reading, kept, same⟩ := acts.of_read start member read
    have holds := mapError_eq_ok_iff.mp reading.symm
    -- A file that would not change stays as it is, and so does every file in a dry run.
    have settled : migration.changes (content s path) = false ∨ options.dryRun = true := by
      simpa [holds, Migration.changes] using settled
    have notBoth : ¬ (migration.changes (content s path) && !options.dryRun) = true := by
      rcases settled with same | dry
      · simp [same]
      · simp [dry]
    refine ⟨?_, kept, same.trans (untouched settled)⟩
    rw [reading, Visit.foreseen, if_neg notBoth]
  | @written _ _ path text result read changed real write =>
    obtain ⟨reading, kept, same⟩ := acts.of_read start member read
    -- The file is written, with success since the files act as a map.
    obtain ⟨rfl, sound', updated⟩ := acts.of_write kept member write
    have holds := mapError_eq_ok_iff.mp reading.symm
    have both : (migration.changes (content s path) && !options.dryRun) = true := by
      simp [holds, Migration.changes, changed, real]
    refine ⟨?_, sound', ?_⟩
    · rw [reading, Visit.foreseen, if_pos both]
    · rw [updated, same]
      funext other
      split
      · next isIt => simp [isIt, holds, Migration.outcomeOf, real, Except.map]
      · rfl

/-- Visits of different listed files are those that were to be foreseen before the first of them,
and each of these files then holds what is to come of what it held. -/
theorem Tour.foreseen {visits : List Visit} (acts : ActsAsMap fs content sound listed)
    (start : sound s) (inside : ∀ visit ∈ visits, visit.path ∈ listed)
    (distinct : (visits.map (·.path)).Nodup) (tour : Tour fs migration options s visits s') :
    visits = (visits.map (·.path)).map
        (fun path => .foreseen migration options path (content s path)) ∧
      content s' = fun path =>
        if path ∈ visits.map (·.path) then migration.outcomeOf options (content s path)
        else content s path := by
  -- The first visit leaves all other files as they are, and those are visited from there.
  induction tour with
  | finished => exact ⟨rfl, by simp⟩
  | @next s t s' visit visits first others ih =>
    obtain ⟨member, inside⟩ := List.forall_mem_cons.mp inside
    obtain ⟨fresh, distinct⟩ := List.nodup_cons.mp distinct
    obtain ⟨foretold, start', changed⟩ := first.foreseen acts start member
    obtain ⟨rest, after⟩ := ih start' inside distinct
    have kept : ∀ path ∈ visits.map (·.path), content t path = content s path := by
      intro path later
      have other : path ≠ visit.path := by
        intro same
        rw [same] at later
        exact fresh later
      rw [changed]
      simp [other]
    refine ⟨?_, ?_⟩
    · -- The others are foreseen from the state behind the first visit, where they hold the same.
      rw [List.map_cons, List.map_cons, ← foretold]
      refine congrArg (visit :: ·) (rest.trans (List.map_congr_left ?_))
      intro path later
      rw [kept path later]
    · -- The first file was changed by its own visit and by none of the others.
      funext path
      rw [after]
      show (if path ∈ visits.map (·.path) then _ else _) = _
      by_cases later : path ∈ visits.map (·.path)
      · rw [if_pos later, kept path later, List.map_cons, if_pos (List.mem_cons_of_mem _ later)]
      · rw [if_neg later, changed]
        simp only [List.map_cons, List.mem_cons, later, or_false]

/-- What is reported of a file, as if it had not been written. -/
def FileMigration.unwritten (migrated : FileMigration) : FileMigration :=
  { migrated with written := false }

/-- A report as one of a dry run, in which no file is written. -/
def MigrationReport.rehearsed (report : MigrationReport) : MigrationReport :=
  { report with
    options := { report.options with dryRun := true }
    files := report.files.map FileMigration.unwritten }

/-- Only what is told of writing is different in the report of a dry run. -/
theorem MigrationReport.Accounts.rehearsed {report : MigrationReport} {errors : List Text}
    {files : List FileMigration} (accounts : report.Accounts options errors files) :
    report.rehearsed.Accounts { options with dryRun := true } errors
      (files.map FileMigration.unwritten) where
  options := by rw [← accounts.options]; rfl
  filesScanned := by rw [List.length_map, ← accounts.filesScanned]; rfl
  totalReplacements := by rw [List.map_map]; exact accounts.totalReplacements
  files := by rw [← accounts.files]; rfl
  filesWithUnmapped := by
    rw [List.filter_map, List.map_map]
    exact accounts.filesWithUnmapped
  unmapped token := by
    -- The tokens of a file do not depend on whether it was written.
    show token ∈ report.unmapped.elements ↔ _
    rw [accounts.unmapped token]
    constructor
    · intro found
      obtain ⟨file, member, inFile⟩ := found
      exact ⟨file.unwritten, List.mem_map_of_mem member, inFile⟩
    · intro found
      obtain ⟨_, inMap, inFile⟩ := found
      obtain ⟨file, member, rfl⟩ := List.mem_map.mp inMap
      exact ⟨file, member, inFile⟩
  errors := by rw [List.flatMap_map]; exact accounts.errors

/-- A dry run reports of a file what the other run does, up to its being written. -/
theorem Visit.entry_foreseen_dry (path : Path) (held : Except FileFault Text) (strict : Bool) :
    (foreseen migration ⟨true, strict⟩ path held).entry migration root =
      ((foreseen migration ⟨false, strict⟩ path held).entry migration root).unwritten := by
  cases held with
  | error fault => rfl
  | ok text => cases changed : migration.changes (.ok text) <;>
      simp [foreseen, entry, faults, Except.mapError, changed, FileMigration.unwritten]

/-- A file is reported to be written exactly if the migration changes it. -/
theorem Visit.written_entry_foreseen (path : Path) (held : Except FileFault Text) (strict : Bool) :
    ((foreseen migration ⟨false, strict⟩ path held).entry migration root).written =
      migration.changes held := by
  cases held with
  | error fault => rfl
  | ok text => cases changed : migration.changes (.ok text) <;>
      simp [foreseen, entry, Except.mapError, changed]

/-- A run on different files that act as a map reports what was to be foreseen of each. -/
theorem Migration.run_foreseen {found : SourceFiles} (migration : Migration)
    (acts : ActsAsMap fs content sound found.files) (start : sound s)
    (distinct : found.files.Nodup) (options : MigrationOptions) (root : Path) :
    ((migration.run fs options root found).run s).1.Accounts options found.errors
        (found.files.map fun path =>
          (Visit.foreseen migration options path (content s path)).entry migration root) ∧
      content ((migration.run fs options root found).run s).2 = fun path =>
        if path ∈ found.files then migration.outcomeOf options (content s path)
        else content s path := by
  -- The tour is the run; what it reports is told of the visits that were foreseen.
  obtain ⟨visits, s', tour, files, ran⟩ := migration.exists_tour fs options root found s
  obtain ⟨foretold, after⟩ := tour.foreseen acts start
    (fun visit member => files ▸ List.mem_map_of_mem member) (files ▸ distinct)
  rw [ran]
  refine ⟨?_, files ▸ after⟩
  have accounts := accounts_foldl_entry migration options root visits found.errors
  rw [files] at foretold
  have entries : visits.map (·.entry migration root) = found.files.map fun path =>
      (Visit.foreseen migration options path (content s path)).entry migration root := by
    rw [foretold, List.map_map]
    rfl
  exact entries ▸ accounts

/-- Where the listed files are different and act as a map, a dry run leaves what every file holds,
and the run that writes leaves in each listed file the migration of its text and in every other file
what it held; the two report the same but for being a dry run and for the files that were written,
which are those that the migration changes, and come to the same. -/
theorem run_rehearses {found : SourceFiles} (acts : ActsAsMap fs content sound found.files)
    (start : sound s) (distinct : found.files.Nodup) (migration : Migration) (strict : Bool)
    (root : Path) :
    let dry := (migration.run fs ⟨true, strict⟩ root found).run s
    let real := (migration.run fs ⟨false, strict⟩ root found).run s
    content dry.2 = content s ∧
      (content real.2 = fun path =>
        if path ∈ found.files then
          (content s path).map fun text => (migration.migrateText text).content
        else content s path) ∧
      dry.1 = real.1.rehearsed ∧ real.1.options = ⟨false, strict⟩ ∧
      (real.1.files.map (·.written) = found.files.map fun path =>
        migration.changes (content s path)) ∧
      dry.1.outcome = real.1.outcome ∧
      dry.1.outcome.exitCode = real.1.outcome.exitCode := by
  intro dry real
  obtain ⟨dryAccounts, dryAfter⟩ := migration.run_foreseen acts start distinct ⟨true, strict⟩ root
  obtain ⟨realAccounts, realAfter⟩ := migration.run_foreseen acts start distinct ⟨false, strict⟩
    root
  -- Both runs report what was to be foreseen of the same contents.
  have entries : (found.files.map fun path =>
        (Visit.foreseen migration ⟨true, strict⟩ path (content s path)).entry migration root) =
      (found.files.map fun path => (Visit.foreseen migration ⟨false, strict⟩ path
        (content s path)).entry migration root).map FileMigration.unwritten := by
    rw [List.map_map]
    exact List.map_congr_left fun path _ =>
      Visit.entry_foreseen_dry path (content s path) strict
  -- A report is determined by what it accounts for.
  have same : dry.1 = real.1.rehearsed :=
    (entries ▸ dryAccounts).unique realAccounts.rehearsed
  have outcome : dry.1.outcome = real.1.outcome := by rw [same]; rfl
  refine ⟨?_, realAfter, same, realAccounts.options, ?_, outcome, congrArg _ outcome⟩
  · -- A dry run leaves what every file holds.
    rw [dryAfter]
    simp [Migration.outcomeOf]
  · -- Of a file it is told whether the migration changes it.
    rw [realAccounts.files, List.map_map]
    exact List.map_congr_left fun path _ =>
      Visit.written_entry_foreseen path (content s path) strict

/-- A disk with a text that the sample map changes, a file that is not a text, a text that stays as
it is and a text that is not listed. -/
def sampleDisk : Disk where
  entries :=
    [("a.html", .file (Text.utf8 Migration.sampleText)), ("b.html", .file [0xff]),
      ("c.html", .file (Text.utf8 "<p/>")), ("d.html", .file (Text.utf8 Migration.sampleText))]

/-- All files of the sample disk but the last one. -/
def sampleFiles : SourceFiles := ⟨["a.html", "b.html", "c.html"], []⟩

/-- Of the listed files of the sample disk a run writes the first one, and the dry run, which writes
none, foretells its report. -/
theorem run_rehearses_sample :
    ∃ migration, Migration.ofMap Migration.sampleMap Migration.samplePalette = .ok migration ∧
      let dry := (migration.run Disk.fileSystem ⟨true, true⟩ [] sampleFiles).run sampleDisk
      let real := (migration.run Disk.fileSystem ⟨false, true⟩ [] sampleFiles).run sampleDisk
      dry.2.held = sampleDisk.held ∧ dry.1 = real.1.rehearsed ∧
        real.1.files.map (·.written) = [true, false, false] ∧
        real.2.held "d.html" = .ok Migration.sampleText ∧
        dry.1.outcome.exitCode = real.1.outcome.exitCode := by
  refine ⟨_, rfl, ?_⟩
  intro dry real
  have named : ∀ name ∈ sampleFiles.files, Disk.IsName name := by decide +kernel
  -- Each listed name is that of a file, and the fourth file is not listed.
  have files : sampleDisk.HasFiles sampleFiles.files := by
    intro name member
    simp only [sampleFiles, List.mem_cons, List.not_mem_nil, or_false] at member
    rcases member with rfl | rfl | rfl <;> exact ⟨_, rfl⟩
  obtain ⟨untouched, after, same, -, written, -, code⟩ := run_rehearses (Disk.actsAsMap named) files
    (by decide +kernel) _ true []
  refine ⟨untouched, same, ?_, ?_, code⟩
  · exact written.trans (by decide +kernel)
  · rw [after]
    exact Disk.textOf_utf8 Migration.sampleText

end TokenGuard
