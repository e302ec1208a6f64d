import TokenGuard.Render

/-! Drift: whether the hash recorded in each region is the fingerprint of its table. -/

namespace TokenGuard

/-- The state of a section in an artifact. -/
inductive SectionStatus
  /-- The recorded hash is the expected one. -/
  | ok (hash : Text)
  /-- Another hash is recorded. -/
  | drift (expected actual : Text)
  /-- There is no marker or no hash to compare. -/
  | missing (reason : Text)
  deriving DecidableEq

namespace SectionStatus

/-- The name of a status. -/
def name : SectionStatus → Text
  | ok _ => "ok"
  | drift .. => "drift"
  | missing _ => "missing"

/-- Whether nothing has to be done. -/
def isOk : SectionStatus → Bool
  | ok _ => true
  | _ => false

/-- What has to be done. -/
def remediation : SectionStatus → Option Text
  | ok _ => none
  | drift .. => some "Run \x60nexus-guard generate\x60 to synchronize"
  | missing _ =>
    some "Add the section markers to the artifact, then run \x60nexus-guard generate\x60"

/-- The details of a status. -/
def details : SectionStatus → List (Text × Text)
  | ok hash => [("hash", hash)]
  | drift expected actual => [("expected", expected), ("actual", actual)]
  | missing reason => [("reason", reason)]

/-- The members that describe a status. -/
def members (status : SectionStatus) : List (Text × Json.Value) :=
  ("status", .string status.name) :: status.details.map fun (key, text) => (key, .string text)

end SectionStatus

/-- The status of one section. -/
structure SectionCheck where
  /-- The section's name. -/
  name : Text
  status : SectionStatus
  deriving DecidableEq

/-- The status of every section of an artifact. -/
structure DriftReport where
  /-- The version of the manifest that was compared with. -/
  manifestVersion : Text
  /-- The checks in the order of the sections. -/
  sections : List SectionCheck
  deriving DecidableEq

/-- The reason that is given for a region without a hash. -/
def noHashReason : Text := "no HASH line in region"

/-- Compare the hash of a region's body with the expected one. -/
def compareHash (expected body : Text) : SectionStatus :=
  match extractHash body with
  | some actual => if actual = expected then .ok actual else .drift expected actual
  | none => .missing noHashReason

/-- Check one section; only a missing marker is a status, any other marker error is fatal. -/
def checkSection (manifest : Manifest) (artifact : Text) (s : Section) :
    Except SectionError SectionCheck := do
  let table ← sectionTable manifest s
  match locate artifact s.name with
  | .ok region => return ⟨s.name, compareHash table.fingerprint region.body⟩
  | .error cause =>
    if cause.isMissing then return ⟨s.name, .missing cause.message⟩
    else throw (.marker s.name cause)

/-- Check every section of an artifact. -/
def validate (manifest : Manifest) (sections : List Section) (artifact : Text) :
    Except SectionError DriftReport := do
  return ⟨manifest.version.toText, ← sections.mapM (checkSection manifest artifact)⟩

namespace DriftReport

/-- Whether every section is in order. -/
def isClean (report : DriftReport) : Bool := report.sections.all (·.status.isOk)

/-- The number of sections that are not in order. -/
def driftCount (report : DriftReport) : Nat := (report.sections.filter (!·.status.isOk)).length

/-- The status of the first check of a name. -/
def statusOf (report : DriftReport) (name : Text) : Option SectionStatus :=
  (report.sections.find? (·.name == name)).map (·.status)

/-- A check as a value: the name beside the members of its status. -/
def checkValue (check : SectionCheck) : Json.Value :=
  .object (("section", .string check.name) :: check.status.members)

/-- A report as a value. -/
def toValue (report : DriftReport) : Json.Value :=
  .object [("manifest_version", .string report.manifestVersion),
    ("sections", .array (report.sections.map checkValue))]

end DriftReport

end TokenGuard
