import TokenGuard.CommandLine.Arguments
import TokenGuard.CommandLine.Printout

/-! Running the program: from its arguments to what it prints and the code it ends with. -/

namespace TokenGuard.CommandLine

/-- What a run of the program leaves. -/
structure Response where
  exitCode : Nat
  /-- What is printed as the result. -/
  output : Text
  /-- What is printed about a failure. -/
  complaint : Text
  deriving DecidableEq

namespace Response

/-- A report is printed, and the code tells whether all is well. -/
def report (good : Bool) (output : Text) : Response := ⟨if good then 0 else 1, output, []⟩

/-- A command failed, which is told as JSON if that was asked for. -/
def failure (json : Bool) (error : ProjectError) : Response :=
  if json then
    let answer : Json.Value :=
      .object [("success", .boolean false), ("error", .string error.message)]
    ⟨1, printLines [answer.compact], []⟩
  else ⟨1, [], printLines ["✗ " ++ error.message]⟩

/-- The arguments could not be used. -/
def usage (error : UsageError) : Response := ⟨2, [], printLines ["error: " ++ error.message]⟩

end Response

/-- The name of the program. -/
def programName : Text := "nexus-guard"

/-- The version of the program. -/
def programVersion : Text := "1.0.0"

/-- How the program is used. -/
def usageLines : List Text :=
  ["Design Token Generator, Validator and Migration Engine",
    [],
    "Usage: " ++ programName ++ " [OPTIONS] <COMMAND>",
    [],
    "Commands:",
    "  generate  Regenerate every token section in the artifact",
    "  validate  Compare artifact hashes against the manifest",
    "  migrate   Replace legacy class names, raw values and imports",
    "  check     Scan sources for forbidden patterns",
    "  help      Print this message",
    [],
    "Options:",
    "      --root <ROOT>            Project root [default: .]",
    "      --config <CONFIG>        Config file",
    "      --log-level <LOG_LEVEL>  Log filter [default: warn]",
    "      --json                   Print the report as JSON",
    "  -h, --help                   Print help",
    "  -V, --version                Print version",
    [],
    "Options of migrate:",
    "      --dry-run  Report only, never write",
    "      --verbose  Print every processed file",
    "      --strict   Fail when unmapped legacy patterns remain"]

/-- A report as JSON if that was asked for, else as lines. -/
def printReport (json : Bool) (value : Json.Value) (lines : List Text) : Text :=
  if json then printLines [value.pretty 0] else printLines lines

variable {m : Type → Type} [Monad m]

/-- Do a task in an open project. -/
def perform (fs : FileSystem m) (project : Project) (json : Bool) :
    Task → Project.Command m Response
  | .generate => do
    let (manifest, outcome) ← project.generate fs
    return .report true (printReport json outcome.toValue
      (generateLines manifest.version.toText project.artifactPath outcome))
  | .validate => do
    let report ← project.validate fs
    return .report report.isClean (printReport json report.toValue (validateLines report))
  | .migrate options verbose => do
    let report ← project.migrate fs options
    let value : Json.Value :=
      .object [("outcome", .string report.outcome.name), ("report", report.toValue)]
    return ⟨report.outcome.exitCode, printReport json value (migrateLines verbose report), []⟩
  | .check => do
    let report ← project.check fs
    return .report report.isClean (printReport json report.toValue (complianceLines report))

/-- Open the project and do what is asked for. -/
def invoke (fs : FileSystem m) (invocation : Invocation) : m Response := do
  let command : Project.Command m Response := do
    let project ← Project.openAt fs invocation.root invocation.config
    perform fs project invocation.json invocation.task
  match ← command.run with
  | .ok response => return response
  | .error error => return .failure invocation.json error

/-- Run the program. -/
def run (fs : FileSystem m) (arguments : List Text) : m Response :=
  match readRequest arguments with
  | .ok (.run invocation) => invoke fs invocation
  | .ok .help => return ⟨0, printLines usageLines, []⟩
  | .ok .version => return ⟨0, printLines [programName ++ " " ++ programVersion], []⟩
  | .error error => return .usage error

end TokenGuard.CommandLine
