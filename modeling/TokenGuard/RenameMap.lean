import TokenGuard.Regex.Parse
import TokenGuard.Residual

/-! Rename maps: the rules that lead from legacy names to canonical ones. -/

namespace TokenGuard

/-- A rule for a pattern of several tokens. -/
structure ContextualRule where
  name : Text
  pattern : Text
  /-- What a match is replaced by, literally. -/
  replacement : Text
  deriving DecidableEq

/-- A rename map. -/
structure RenameMap where
  /-- What legacy class names start with. -/
  legacyLead : Text
  /-- Legacy classes and the classes that replace them. -/
  classes : OrderedMap Text
  /-- Raw color classes and the classes that replace them. -/
  rawValues : OrderedMap Text
  /-- Legacy imports and the imports that replace them. -/
  imports : OrderedMap Text
  contextual : List ContextualRule
  /-- The token utilities that a rule may produce. -/
  canonicalClasses : List Text
  deriving DecidableEq

/-- Why a target is not acceptable. -/
inductive TargetFault
  /-- It is a legacy or raw class itself. -/
  | residual
  /-- It is a token utility that is not listed. -/
  | unlisted
  /-- It is a legacy import. -/
  | residualImport
  deriving DecidableEq

/-- The wording of a fault. -/
def TargetFault.message : TargetFault → Text
  | residual => "legacy or raw palette class"
  | unlisted => "token utility not in canonical_classes"
  | residualImport => "legacy import target"

/-- A target that is not acceptable, with the rule that has it. -/
structure InvalidTarget where
  rule : Text
  target : Text
  fault : TargetFault
  deriving DecidableEq

/-- A target on one line. -/
def InvalidTarget.summary (invalid : InvalidTarget) : Text :=
  invalid.rule ++ " -> " ++ invalid.target ++ " (" ++ invalid.fault.message ++ ")"

/-- Why a rename map cannot be used. -/
inductive RenameMapError
  /-- Some targets are not acceptable. -/
  | invalidTargets (targets : List InvalidTarget)
  /-- The pattern of a rule is rejected. -/
  | invalidPattern (rule : Text) (cause : Regex.PatternError)
  deriving DecidableEq

/-- The wording of an error. -/
def RenameMapError.message : RenameMapError → Text
  | invalidTargets targets =>
    "Rename map has " ++ Text.ofNat targets.length ++ " invalid target(s): " ++
      Text.join "; " (targets.map InvalidTarget.summary)
  | invalidPattern rule cause =>
    "Contextual rule " ++ rule ++ ": invalid pattern: " ++ cause.message

/-- A small letter of ASCII. -/
def isSmallLetter (c : Char) : Bool := 'a' ≤ c && c ≤ 'z'

/-- A text of small letters and hyphens with `-nx-` and one or more small letters,
digits or hyphens. -/
def endsAsTokenUtility : Text → Bool
  | [] => false
  | c :: rest =>
    let here := match Text.dropPrefix? "-nx-" (c :: rest) with
      | some tail => !tail.isEmpty && tail.all isLegacyTail
      | none => false
    here || ((isSmallLetter c || c = '-') && endsAsTokenUtility rest)

/-- A class such as `bg-nx-surface`, which shows a token. -/
def isTokenUtility : Text → Bool
  | [] => false
  | c :: rest => isSmallLetter c && endsAsTokenUtility rest

/-- What follows the last colon of a class. -/
def stripVariants (name : Text) : Text := (name.reverse.takeWhile (· ≠ ':')).reverse

namespace RenameMap

/-- The fault of one class of a target. -/
def classFault? (map : RenameMap) (detector : ResidualDetector) (name : Text) :
    Option TargetFault :=
  if !(detector.detect name).isEmpty then some .residual
  else if isTokenUtility (stripVariants name) && !map.canonicalClasses.contains name then
    some .unlisted
  else none

/-- The rules whose targets are classes, each with its name. -/
def classRules (map : RenameMap) : List (Text × Text) :=
  map.classes.entries ++ map.rawValues.entries ++
    map.contextual.map fun rule => (rule.name, rule.replacement)

/-- The classes of a target that are not acceptable. -/
def invalidClasses (map : RenameMap) (detector : ResidualDetector) (rule target : Text) :
    List InvalidTarget :=
  (Text.words target).filterMap fun name =>
    (map.classFault? detector name).map fun fault => ⟨rule, name, fault⟩

/-- All targets that are not acceptable: those of class rules, then those of imports. -/
def invalidTargets (map : RenameMap) (detector : ResidualDetector) : List InvalidTarget :=
  map.classRules.flatMap (fun (rule, target) => map.invalidClasses detector rule target) ++
    map.imports.entries.filterMap fun (rule, target) =>
      if (detector.detect target).isEmpty then none else some ⟨rule, target, .residualImport⟩

/-- Check that every target is acceptable. -/
def verify (map : RenameMap) (detector : ResidualDetector) : Except RenameMapError Unit :=
  match map.invalidTargets detector with
  | [] => .ok ()
  | targets => .error (.invalidTargets targets)

/-- Compile the pattern of a contextual rule. -/
def compileRule (rule : ContextualRule) : Except RenameMapError (Regex.Program × Text) :=
  match Regex.compilePattern rule.pattern with
  | .ok program => .ok (program, rule.replacement)
  | .error cause => .error (.invalidPattern rule.name cause)

/-- Compile the patterns of all contextual rules, each with its replacement. -/
def compileContextual (map : RenameMap) : Except RenameMapError (List (Regex.Program × Text)) :=
  map.contextual.mapM compileRule

/-- A contextual rule as a record. -/
def contextualRecord :
    Json.Record (Option Text × Option Text × Option Text) ContextualRule where
  expected := "struct ContextualRule"
  fields := ["name", "pattern", "replacement"]
  strict := false
  blank := (none, none, none)
  put field node draft :=
    if field = "name".toList then
      return (some (← Json.decodeString node), draft.2)
    else if field = "pattern".toList then
      return (draft.1, some (← Json.decodeString node), draft.2.2)
    else return (draft.1, draft.2.1, some (← Json.decodeString node))
  finish missing draft := do
    return {
      name := ← Json.Record.required missing "name" draft.1
      pattern := ← Json.Record.required missing "pattern" draft.2.1
      replacement := ← Json.Record.required missing "replacement" draft.2.2 }

/-- The fields of a rename map that have been read. -/
structure Draft where
  legacyLead : Option Text
  classes : Option (OrderedMap Text)
  rawValues : Option (OrderedMap Text)
  imports : Option (OrderedMap Text)
  contextual : Option (List ContextualRule)
  canonicalClasses : Option (List Text)

/-- A rename map as a record; everything but the legacy prefix may be missing. -/
def record : Json.Record Draft RenameMap where
  expected := "struct RenameMap"
  fields := ["legacy_prefix", "classes", "raw_values", "imports", "contextual",
    "canonical_classes"]
  strict := false
  blank := ⟨none, none, none, none, none, none⟩
  put field node draft :=
    if field = "legacy_prefix".toList then
      return { draft with legacyLead := some (← Json.decodeString node) }
    else if field = "classes".toList then
      return { draft with classes := some (← Json.decodeMap Json.decodeString node) }
    else if field = "raw_values".toList then
      return { draft with rawValues := some (← Json.decodeMap Json.decodeString node) }
    else if field = "imports".toList then
      return { draft with imports := some (← Json.decodeMap Json.decodeString node) }
    else if field = "contextual".toList then
      return { draft with
        contextual := some (← Json.decodeList (contextualRecord.decode .text) node) }
    else return { draft with
      canonicalClasses := some (← Json.decodeList Json.decodeString node) }
  finish missing draft := do
    return {
      legacyLead := ← Json.Record.required missing "legacy_prefix" draft.legacyLead
      classes := draft.classes.getD .empty
      rawValues := draft.rawValues.getD .empty
      imports := draft.imports.getD .empty
      contextual := draft.contextual.getD []
      canonicalClasses := draft.canonicalClasses.getD [] }

/-- Read a rename map from a text. -/
def ofText (text : Text) : Json.Decoded RenameMap :=
  (Json.Document.ofText text).decode (record.decode .text)

/-- A contextual rule as a value. -/
def contextualValue (rule : ContextualRule) : Json.Value :=
  .object [("name", .string rule.name), ("pattern", .string rule.pattern),
    ("replacement", .string rule.replacement)]

/-- A rename map as a value. -/
def toValue (map : RenameMap) : Json.Value :=
  .object [("legacy_prefix", .string map.legacyLead),
    ("classes", TokenTable.flatValue map.classes),
    ("raw_values", TokenTable.flatValue map.rawValues),
    ("imports", TokenTable.flatValue map.imports),
    ("contextual", .array (map.contextual.map contextualValue)),
    ("canonical_classes", .ofTexts map.canonicalClasses)]

/-- The text of a rename map on one line. -/
def toText (map : RenameMap) : Text := map.toValue.compact

end RenameMap

end TokenGuard
