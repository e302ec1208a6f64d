import TokenGuard.Project

/-! Reports as they are printed for a reader. -/

namespace TokenGuard.CommandLine

/-- Lines, each closed by a line feed. -/
def printLines (lines : List Text) : Text := lines.flatMap (· ++ ['\n'])

/-- Each item behind a label. -/
def labelled (label : Text) (items : List Text) : List Text := items.map (label ++ ·)

/-- A number in decimal digits. -/
def number (n : Nat) : Text := Text.ofNat n

/-- What generating did: a line for each section, and whether the artifact was written. -/
def generateLines (version : Text) (artifact : Path) (outcome : GenerateOutcome) : List Text :=
  let total := outcome.sections.foldl (fun total summary => total + summary.tokens) 0
  let size := "(" ++ number outcome.sections.length ++ " sections, " ++ number total ++ " tokens)"
  ["Manifest v" ++ version] ++
    outcome.sections.map (fun summary =>
      "  ✓ " ++ Text.padRight 18 summary.name ++ " " ++ Text.padLeft 4 (number summary.tokens) ++
        " tokens  " ++ summary.hash) ++
    [if outcome.changed then "Wrote " ++ artifact ++ " " ++ size else "Up to date " ++ size]

/-- The state of one section. -/
def checkLines (check : SectionCheck) : List Text :=
  match check.status with
  | .ok _ => ["  ✓ " ++ check.name ++ ": ok"]
  | .drift expected actual =>
    ["  ✗ " ++ check.name ++ ": drift", "      expected " ++ expected,
      "      actual   " ++ actual]
  | .missing reason => ["  ✗ " ++ check.name ++ ": missing (" ++ reason ++ ")"]

/-- The state of all sections, and what to do about the first that is not in order. -/
def validateLines (report : DriftReport) : List Text :=
  let total := number report.sections.length
  ["Manifest v" ++ report.manifestVersion] ++ report.sections.flatMap checkLines ++
    (if report.isClean then ["All " ++ total ++ " sections in sync"]
    else
      [number report.driftCount ++ " of " ++ total ++ " sections out of sync"] ++
        labelled "Fix: " (report.sections.findSome? (·.status.remediation)).toList)

/-- What a migration did to one file, which is left out if that is nothing and `verbose` is off. -/
def fileLines (verbose : Bool) (file : FileMigration) : List Text :=
  let touched := 0 < file.replacements || !file.unmapped.isEmpty || !file.errors.isEmpty
  if !verbose && !touched then []
  else
    ["  " ++ file.file ++ " (" ++ number file.replacements ++ " replacements)"] ++
      (if verbose then labelled "      unmapped: " file.unmapped else []) ++
      labelled "      error: " file.errors

/-- A heading with items below it, left out if there are none. -/
def itemLines (heading : Text) (items : List Text) : List Text :=
  if items.isEmpty then [] else heading :: labelled "  - " items

/-- What a migration did, file by file and as a whole. -/
def migrateLines (verbose : Bool) (report : MigrationReport) : List Text :=
  let notice : List Text := if report.options.dryRun then ["Dry run: no files written"] else []
  notice ++ report.files.flatMap (fileLines verbose) ++
    ["Files scanned:      " ++ number report.filesScanned,
      "Total replacements: " ++ number report.totalReplacements,
      "Files with unmapped patterns: " ++ number report.filesWithUnmapped.length] ++
    itemLines "Unmapped patterns:" report.unmapped.elements ++
    itemLines "Errors:" report.errors ++
    [report.outcome.message]

/-- A violation below its file. -/
def violationLine (violation : Violation) : Text :=
  "  L" ++ number violation.line ++ ": [" ++ violation.pattern ++ "] " ++ violation.excerpt

/-- The violations file by file, the errors, and the totals. -/
def complianceLines (report : ComplianceReport) : List Text :=
  let total :=
    "Scanned " ++ number report.filesScanned ++ " files against " ++ number report.patterns ++
      " patterns: " ++ number report.violations.length ++ " violations, " ++
      number report.errors.length ++ " errors"
  let verdict : List Text := if report.isClean then ["✓ Compliant"] else []
  report.byFile.flatMap (fun (file, violations) => file :: violations.map violationLine) ++
    labelled "error: " report.errors ++ [total] ++ verdict

end TokenGuard.CommandLine
