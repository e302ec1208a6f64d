import TokenGuard.Text.Basic

/-! Marked regions of an artifact: the text strictly between the two markers of a section. -/

namespace TokenGuard

/-- The two markers of a region. -/
inductive MarkerKind
  | start
  | stop
  deriving DecidableEq

/-- The word by which a marker tells its kind. -/
def MarkerKind.label : MarkerKind → Text
  | start => "START"
  | stop => "END"

/-- The literal text of a section's marker. -/
def marker (name : Text) (kind : MarkerKind) : Text :=
  "/* NX:" ++ name ++ ":" ++ kind.label ++ " */"

/-- Why a section has no region. -/
inductive MarkerError
  /-- A marker does not occur. -/
  | missing (name : Text) (kind : MarkerKind)
  /-- A marker occurs again behind its first occurrence. -/
  | duplicate (name : Text) (kind : MarkerKind)
  /-- The end marker starts before the start marker ends. -/
  | inverted (name : Text)
  deriving DecidableEq

namespace MarkerError

/-- Whether the error is that a marker does not occur. -/
def isMissing : MarkerError → Bool
  | missing .. => true
  | _ => false

/-- The wording of an error. -/
def message : MarkerError → Text
  | missing name kind => "Missing marker: " ++ marker name kind
  | duplicate name kind => "Duplicate marker: " ++ marker name kind ++ " occurs more than once"
  | inverted name => "Invalid marker order: " ++ marker name .stop ++ " precedes its START marker"

end MarkerError

/-- A text divided at a region: up to the start marker, the body, and from the end marker on. -/
structure Region where
  /-- The text up to and including the start marker. -/
  before : Text
  /-- The text between the markers. -/
  body : Text
  /-- The text from the end marker on. -/
  after : Text
  deriving DecidableEq

namespace Region

/-- The byte offset at which the body starts. -/
def startOffset (region : Region) : Nat := Text.byteSize region.before

/-- The byte offset at which the body ends. -/
def stopOffset (region : Region) : Nat := region.startOffset + Text.byteSize region.body

/-- The text with another body. -/
def withBody (region : Region) (body : Text) : Text := region.before ++ body ++ region.after

end Region

/-- The text on both sides of a marker's only occurrence. -/
def cutOnce (text name : Text) (kind : MarkerKind) : Except MarkerError (Text × Text) :=
  match Text.cut? (marker name kind) text with
  | none => .error (.missing name kind)
  | some (before, after) =>
    if Text.occursIn (marker name kind) after then .error (.duplicate name kind)
    else .ok (before, after)

/-- The region of a section, whose two markers must each occur once and in order. -/
def locate (text name : Text) : Except MarkerError Region := do
  let (outside, _) ← cutOnce text name .start
  let (inside, after) ← cutOnce text name .stop
  let before := outside ++ marker name .start
  if inside.length < before.length then throw (.inverted name)
  return ⟨before, inside.drop before.length, marker name .stop ++ after⟩

/-- A text with another body for one section; the markers and all else stay. -/
def replaceRegion (text name body : Text) : Except MarkerError Text := do
  return (← locate text name).withBody body

end TokenGuard
