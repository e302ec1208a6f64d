import TokenGuard.Compliance
import TokenGuard.Config
import TokenGuard.Drift
import TokenGuard.Migration.Run
import TokenGuard.Shipped.RenameMap

/-! A project: a root with a configuration, and the commands that work on its files. -/

namespace TokenGuard

/-- The documents that a project is described by. -/
inductive Document
  | config
  | manifest
  | renameMap
  deriving DecidableEq

/-- What a document is called. -/
def Document.label : Document → Text
  | config => "config file"
  | manifest => "token manifest"
  | renameMap => "rename map"

/-- Why a document cannot be loaded. -/
inductive LoadFault
  | notFound
  | unreadable (fault : FileFault)
  | unparsable (error : Json.Error)
  deriving DecidableEq

/-- A document that cannot be loaded. -/
structure LoadError where
  document : Document
  path : Path
  fault : LoadFault
  deriving DecidableEq

/-- The wording of an error; a rename map that cannot be parsed is told without its path. -/
def LoadError.message : LoadError → Text
  | ⟨.config, path, .notFound⟩ => "Cannot find config file " ++ path
  | ⟨document, path, .notFound⟩ => "Cannot find " ++ document.label ++ " at " ++ path
  | ⟨document, path, .unreadable fault⟩ =>
    "Failed to read " ++ document.label ++ " " ++ path ++ ": " ++ fault.message
  | ⟨.renameMap, _, .unparsable error⟩ => "Failed to parse rename map: " ++ error.message
  | ⟨document, path, .unparsable error⟩ =>
    "Failed to parse " ++ document.label ++ " " ++ path ++ ": " ++ error.message

/-- Why a command on a project fails. -/
inductive ProjectError
  | load (error : LoadError)
  | manifest (cause : ManifestMismatch)
  | marker (name : Text) (cause : MarkerError)
  | file (error : FileError)
  | renameMap (error : RenameMapError)
  | compliance (error : ComplianceError)
  deriving DecidableEq

namespace ProjectError

/-- The wording of an error. -/
def message : ProjectError → Text
  | load error => error.message
  | manifest cause => cause.message
  | marker name cause => (SectionError.marker name cause).message
  | file error => error.message
  | renameMap error => error.message
  | compliance error => error.message

/-- An error of a section as one of the project. -/
def ofSection : SectionError → ProjectError
  | .manifest cause => manifest cause
  | .marker name cause => marker name cause

end ProjectError

/-- What generating did to the artifact. -/
structure GenerateOutcome where
  /-- Whether the artifact was written. -/
  changed : Bool
  sections : List SectionSummary
  deriving DecidableEq

/-- A project. -/
structure Project where
  root : Path
  config : GuardConfig
  deriving DecidableEq

namespace Project

variable {m : Type → Type} [Monad m]

/-- A command that may fail. -/
abbrev Command (m : Type → Type) := ExceptT ProjectError m

/-- A command that cannot do anything but fail or succeed. -/
def settle {ε α : Type} (wrap : ε → ProjectError) (result : Except ε α) : Command m α :=
  ExceptT.mk (pure (result.mapError wrap))

/-- Load a document, which must exist. -/
def loadDocument {α : Type} (fs : FileSystem m) (document : Document) (path : Path)
    (parse : Text → Json.Decoded α) : Command m α := do
  let failed (fault : LoadFault) : ProjectError := .load ⟨document, path, fault⟩
  if !(← fs.contains path) then throw (failed .notFound)
  let text ← settle (failed <| .unreadable ·) (← fs.readText path)
  settle (failed <| .unparsable ·) (parse text)

/-- Load the configuration: the one asked for, else the one at the root, else the standard one. -/
def loadConfig (fs : FileSystem m) (root : Path) (asked : Option Path) : Command m GuardConfig := do
  let path := root.join (asked.getD GuardConfig.fileName)
  if asked.isNone && !(← fs.contains path) then return .standard
  loadDocument fs .config path GuardConfig.ofText

/-- Open the project at a root. -/
def openAt (fs : FileSystem m) (root : Path) (asked : Option Path) : Command m Project := do
  return ⟨root, ← loadConfig fs root asked⟩

/-- The sections of the artifact. -/
def sections (project : Project) : List Section := project.config.activeSections

/-- The path of the manifest. -/
def manifestPath (project : Project) : Path := project.root.join project.config.manifest

/-- The path of the artifact. -/
def artifactPath (project : Project) : Path := project.root.join project.config.artifact

/-- Load the manifest, which must serve the given sections. -/
def loadManifestFor (fs : FileSystem m) (project : Project) (sections : List Section) :
    Command m Manifest := do
  let manifest ← loadDocument fs .manifest project.manifestPath Manifest.ofText
  settle .manifest (manifest.require sections)
  return manifest

/-- Load the manifest, which must serve all sections of the project. -/
def loadManifest (fs : FileSystem m) (project : Project) : Command m Manifest :=
  project.loadManifestFor fs project.sections

/-- Load the configured rename map, or take the shipped one. -/
def loadRenameMap (fs : FileSystem m) (project : Project) : Command m RenameMap :=
  match project.config.renameMap with
  | some path => loadDocument fs .renameMap (project.root.join path) RenameMap.ofText
  | none => return Shipped.renameMap

/-- Generate the artifact, which is written only if it changes. -/
def generate (fs : FileSystem m) (project : Project) : Command m (Manifest × GenerateOutcome) := do
  let manifest ← project.loadManifest fs
  let current ← settle .file (← fs.read project.artifactPath)
  let rendered ← settle .ofSection (render manifest project.sections current)
  let changed := rendered.text != current
  if changed then settle .file (← fs.write project.artifactPath rendered.text)
  return (manifest, ⟨changed, rendered.sections⟩)

/-- Compare the artifact with the manifest. -/
def validate (fs : FileSystem m) (project : Project) : Command m DriftReport := do
  let manifest ← project.loadManifest fs
  let artifact ← settle .file (← fs.read project.artifactPath)
  settle .ofSection (TokenGuard.validate manifest project.sections artifact)

/-- Migrate the source files. -/
def migrate (fs : FileSystem m) (project : Project) (options : MigrationOptions) :
    Command m MigrationReport := do
  let manifest ← project.loadManifestFor fs []
  let map ← project.loadRenameMap fs
  let migration ← settle .renameMap (Migration.ofMap map manifest.rawPalette)
  let found ← SourceTree.collect (m := m) fs (project.config.migrate.resolve project.root)
  Migration.run (m := m) fs migration options project.root found

/-- Look for forbidden patterns in the source files. -/
def check (fs : FileSystem m) (project : Project) : Command m ComplianceReport := do
  let manifest ← project.loadManifestFor fs []
  let scanner ← settle .compliance (Scanner.ofPatterns manifest.forbiddenPatterns)
  let found ← SourceTree.collect (m := m) fs (project.config.check.resolve project.root)
  Scanner.scan (m := m) fs scanner project.root found

end Project

/-- A summary as a value. -/
def SectionSummary.toValue (summary : SectionSummary) : Json.Value :=
  .object [("name", .string summary.name), ("tokens", .ofNat summary.tokens),
    ("hash", .string summary.hash)]

/-- An outcome as a value. -/
def GenerateOutcome.toValue (outcome : GenerateOutcome) : Json.Value :=
  .object [("changed", .boolean outcome.changed),
    ("sections", .array (outcome.sections.map SectionSummary.toValue))]

end TokenGuard
