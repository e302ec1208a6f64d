import TokenGuard.RenameMap

/-! Migrating a text: its legacy names give way to canonical ones, phase by phase. -/

namespace TokenGuard

/-- A condition on characters as one on neighbours, which an end of the text never meets. -/
def besideCharacter (condition : Char → Bool) : Neighbour
  | some c => condition c
  | none => false

/-- Quotes of all three kinds. -/
def isQuote (c : Char) : Bool := c = '"' || c = '\x27' || c = '\x60'

/-- What may stand before a class token. -/
def opensClass (c : Char) : Bool := isQuote c || c = '\x7b' || c = '$' || isBlank c

/-- What may stand behind a class token. -/
def closesClass (c : Char) : Bool := isQuote c || c = '\x7d' || c = '$' || isBlank c

/-- What may stand behind a class in a selector. -/
def closesSelector (c : Char) : Bool := isBlank c || ",\x7b:#[]>+~)".toList.contains c

/-- A name and what replaces it. -/
abbrev Rule := Text × Text

namespace Rule

/-- Rules with the longest names first; rules with names of one length keep their order. -/
def longestFirst (rules : List Rule) : List Rule :=
  rules.mergeSort fun left right => right.1.byteSize ≤ left.1.byteSize

/-- Replace a name where it stands alone as a class token. -/
def onTokens (rule : Rule) (text : Text) : Replaced :=
  text.replaceBounded rule.1 rule.2 (besideCharacter opensClass) (besideCharacter closesClass)

/-- Replace a name where it stands as a class in a selector. -/
def onSelectors (rule : Rule) (text : Text) : Replaced :=
  text.replaceBounded ('.' :: rule.1) ('.' :: rule.2) (fun _ => true)
    (besideCharacter closesSelector)

/-- Replace a name wherever it occurs. -/
def everywhere (rule : Rule) (text : Text) : Replaced := text.replaceAll rule.1 rule.2

end Rule

/-- Apply steps in order, each to the text that the one before left, and add up their counts. -/
def applyAll (steps : List (Text → Replaced)) (text : Text) : Replaced :=
  steps.foldl (fun done step =>
    let next := step done.text
    ⟨next.text, done.count + next.count⟩) ⟨text, 0⟩

/-- A migrated text. -/
structure MigratedText where
  content : Text
  /-- The number of replacements. -/
  replacements : Nat
  /-- The residual tokens of the content. -/
  unmapped : List Text
  deriving DecidableEq

/-- A rename map made ready for use. -/
structure Migration where
  /-- Patterns of several tokens with their replacements. -/
  contextual : List (Regex.Program × Text)
  /-- Rules for class tokens, in the order of their use. -/
  classes : List Rule
  /-- Rules for raw color tokens, in the order of their use. -/
  rawValues : List Rule
  /-- Rules for imports. -/
  imports : List Rule
  /-- What tells residual tokens. -/
  detector : ResidualDetector

namespace Migration

/-- Make a rename map ready, once its targets are known to be acceptable. -/
def ofMap (map : RenameMap) (palette : RawPalette) : Except RenameMapError Migration := do
  let detector : ResidualDetector := ⟨map.legacyLead, palette⟩
  map.verify detector
  return {
    contextual := ← map.compileContextual
    classes := Rule.longestFirst map.classes.entries
    rawValues := Rule.longestFirst map.rawValues.entries
    imports := map.imports.entries
    detector }

/-- The replacements in order: patterns, tokens, selectors, imports. -/
def steps (migration : Migration) : List (Text → Replaced) :=
  migration.contextual.map (fun rule text => rule.1.replaceAll rule.2 text) ++
    (migration.classes ++ migration.rawValues).map Rule.onTokens ++
    migration.classes.map Rule.onSelectors ++
    migration.imports.map Rule.everywhere

/-- Migrate a text, and tell what is left over. -/
def migrateText (migration : Migration) (text : Text) : MigratedText :=
  let final := applyAll migration.steps text
  ⟨final.text, final.count, migration.detector.detect final.text⟩

end Migration

end TokenGuard
