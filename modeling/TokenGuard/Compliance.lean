import TokenGuard.Compliance.Pattern
import TokenGuard.Json.Printer
import TokenGuard.SourceTree

/-! Compliance: no line of a source file contains a forbidden pattern. -/

namespace TokenGuard

/-- Why nothing can be scanned. -/
inductive ComplianceError
  /-- There is no pattern to look for. -/
  | noPatterns
  /-- A pattern is empty. -/
  | emptyPattern
  deriving DecidableEq

/-- The wording of an error. -/
def ComplianceError.message : ComplianceError → Text
  | noPatterns => "Token manifest declares no forbidden_patterns"
  | emptyPattern => "Empty forbidden pattern"

/-- A forbidden pattern in a line. -/
structure Violation where
  /-- The file as it is shown. -/
  file : Path
  /-- The number of the line, the first one being 1. -/
  line : Nat
  pattern : Text
  /-- The start of the line. -/
  excerpt : Text
  deriving DecidableEq

/-- What a scan found. -/
structure ComplianceReport where
  filesScanned : Nat
  /-- The number of patterns. -/
  patterns : Nat
  violations : List Violation
  errors : List Text
  deriving DecidableEq

/-- The number of characters of an excerpt. -/
def excerptLength : Nat := 80

/-- A line without blanks at its ends, cut off when it is long. -/
def excerpt (line : Text) : Text := (Text.trim line).take excerptLength

/-- A scanner with the patterns that it looks for. -/
structure Scanner where
  patterns : List ForbiddenPattern

namespace Scanner

/-- A pattern by its text. -/
def readPattern (raw : Text) : Except ComplianceError ForbiddenPattern :=
  match ForbiddenPattern.ofText? raw with
  | some pattern => .ok pattern
  | none => .error .emptyPattern

/-- A scanner for patterns, of which there must be some. -/
def ofPatterns : List Text → Except ComplianceError Scanner
  | [] => .error .noPatterns
  | patterns => return ⟨← patterns.mapM readPattern⟩

/-- The violations of a line, one for each pattern in it. -/
def scanLine (scanner : Scanner) (file : Path) (number : Nat) (line : Text) : List Violation :=
  (scanner.patterns.filter (·.isMatch line)).map fun pattern =>
    ⟨file, number, pattern.raw, excerpt line⟩

/-- The violations of a text, line by line. -/
def scanText (scanner : Scanner) (file : Path) (text : Text) : List Violation :=
  ((Text.lines text).zipIdx 1).flatMap fun (line, number) => scanner.scanLine file number line

/-- The report before any file, with what went wrong in finding the files. -/
def start (scanner : Scanner) (errors : List Text) : ComplianceReport :=
  ⟨0, scanner.patterns.length, [], errors⟩

/-- A report with the violations of one more file. -/
def recordText (scanner : Scanner) (report : ComplianceReport) (file : Path) (text : Text) :
    ComplianceReport :=
  { report with
    filesScanned := report.filesScanned + 1
    violations := report.violations ++ scanner.scanText file text }

/-- A report with one more file that could not be read. -/
def recordError (report : ComplianceReport) (error : FileError) : ComplianceReport :=
  { report with
    filesScanned := report.filesScanned + 1
    errors := report.errors ++ [error.message] }

/-- Scan files in order, shown as they are seen from a root. -/
def scan {m : Type → Type} [Monad m] (fs : FileSystem m) (scanner : Scanner) (root : Path)
    (found : SourceFiles) : m ComplianceReport :=
  found.files.foldlM (fun report path => do
    match ← fs.read path with
    | .ok text => return scanner.recordText report (Path.relativeTo root path) text
    | .error error => return recordError report error)
    (scanner.start found.errors)

end Scanner

/-- A violation as a value. -/
def Violation.toValue (violation : Violation) : Json.Value :=
  .object [("file", .string violation.file), ("line", .ofNat violation.line),
    ("pattern", .string violation.pattern), ("excerpt", .string violation.excerpt)]

namespace ComplianceReport

/-- Whether there is neither a violation nor an error. -/
def isClean (report : ComplianceReport) : Bool :=
  report.violations.isEmpty && report.errors.isEmpty

/-- The violations in runs of the same file, each run with its first file. -/
def byFile (report : ComplianceReport) : List (Path × List Violation) :=
  let groups := report.violations.splitBy fun left right => Path.same left.file right.file
  groups.filterMap fun group => group.head?.map fun first => (first.file, group)

/-- A report as a value. -/
def toValue (report : ComplianceReport) : Json.Value :=
  .object [("files_scanned", .ofNat report.filesScanned),
    ("patterns", .ofNat report.patterns),
    ("violations", .array (report.violations.map Violation.toValue)),
    ("errors", .ofTexts report.errors)]

end ComplianceReport

end TokenGuard
