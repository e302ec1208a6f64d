import TokenGuard.Proofs.Migration.Exhaustive
import TokenGuard.Proofs.Regex.Replace
import TokenGuard.Proofs.Text.Edit

/-! Migrating twice is migrating once, if no replacement brings back what it or an earlier one
replaced. -/

namespace TokenGuard

open Text

variable {map : RenameMap} {palette : RawPalette} {migration : Migration} {rule other : Rule}
  {key text : Text} {steps : List (Text → Replaced)}

namespace Rule

/-- The edit of class tokens. -/
def tokenEdit (rule : Rule) : Edit :=
  ⟨rule.1, rule.2, besideCharacter opensClass, besideCharacter closesClass⟩

/-- The edit of classes in selectors. -/
def selectorEdit (rule : Rule) : Edit :=
  ⟨'.' :: rule.1, '.' :: rule.2, fun _ => true, besideCharacter closesSelector⟩

/-- The edit of imports. -/
def importEdit (rule : Rule) : Edit := ⟨rule.1, rule.2, fun _ => true, fun _ => true⟩

end Rule

/-- A replacement of a migration. -/
inductive Replacement
  /-- Every match of a pattern gives way to a new text. -/
  | pattern (program : Regex.Program) (new : Text)
  /-- A name gives way to its target. -/
  | literal (edit : Edit)

namespace Replacement

variable {replacement : Replacement}

/-- What is replaced. -/
def finds : Replacement → Target
  | pattern program _ => program.Matches
  | literal edit => edit.finds

/-- What takes its place. -/
def new : Replacement → Text
  | pattern _ new => new
  | literal edit => edit.new

/-- Make a replacement throughout a text. -/
def apply : Replacement → Text → Replaced
  | pattern program new => program.replaceAll new
  | literal edit => edit.apply

/-- What takes the place of one thing keeps clear of another one that is replaced. -/
def Clear (later earlier : Replacement) : Prop := later.finds.Clear later.new earlier.finds

end Replacement

namespace Migration

variable {earlier later replacement : Replacement}

/-- The replacements of patterns in the order of their use. -/
def patternReplacements (migration : Migration) : List Replacement :=
  migration.contextual.map fun rule => .pattern rule.1 rule.2

/-- The replacements of classes in the order of their use. -/
def classReplacements (migration : Migration) : List Replacement :=
  migration.tokenRules.map (fun rule => .literal rule.tokenEdit) ++
    migration.classes.map fun rule => .literal rule.selectorEdit

/-- The replacements of imports in the order of their use. -/
def importReplacements (migration : Migration) : List Replacement :=
  migration.imports.map fun rule => .literal rule.importEdit

/-- All replacements in the order of their use. -/
def replacements (migration : Migration) : List Replacement :=
  migration.patternReplacements ++ (migration.classReplacements ++ migration.importReplacements)

/-- A rename map with a class that is replaced by itself twice. -/
def doublingMap : RenameMap :=
  { sampleMap with classes := .ofStrings [("card", "card card")], rawValues := .empty }

/-- A rename map with an import that has no name. -/
def unnamedMap : RenameMap :=
  { doublingMap with classes := .empty, imports := .ofStrings [("", "x")] }

/-- A rename map with a color that is replaced by a class of the map. -/
def chainedMap : RenameMap :=
  { doublingMap with
    classes := .ofStrings [("gray", "slate")]
    rawValues := .ofStrings [("grey", "gray")] }

/-- A rename map with an import that is replaced by the start of a residual class of the map. -/
def leadMap : RenameMap :=
  { sampleMap with rawValues := .empty, imports := .ofStrings [("@aibos/", "na-")] }

/-- A second run finds something as well if an import has no name, if a name can stand twice in a
row, or if a later class or import brings back an earlier one. -/
theorem exists_not_idempotent : ∀ map ∈ [unnamedMap, abuttingMap, chainedMap, leadMap],
    ∃ migration text, ofMap map .none = .ok migration ∧
      migration.migrateText (migration.migrateText text).content ≠
        { migration.migrateText text with replacements := 0 } := by
  simp only [List.forall_mem_cons]
  refine ⟨⟨_, " ", rfl, by decide +kernel⟩, ⟨_, " $$ ", rfl, by decide +kernel⟩,
    ⟨_, " grey ", rfl, by decide +kernel⟩, ⟨_, " @aibos/card ", rfl, by decide +kernel⟩, ?_⟩
  exact fun map member => absurd member List.not_mem_nil

/-- A second run replaces something if the only pattern matches in what the first run left: in what
the edits made of the text that the pattern left. -/
theorem not_idempotent_of_find? (regex : Regex) {new left : Text}
    (only : migration.contextual = [(regex.compile, new)])
    (once : (regex.compile.replaceAll new text).text = left)
    (again : (regex.compile.find? none (applyAll migration.steps.tail left).text).isSome = true) :
    migration.migrateText (migration.migrateText text).content ≠
      { migration.migrateText text with replacements := 0 } := by
  intro same
  have none := congrArg MigratedText.replacements same
  have ordered : migration.steps = regex.compile.replaceAll new :: migration.steps.tail := by
    rw [steps, only]
    rfl
  simp only [migrateText] at none
  rw [ordered, applyAll_cons, applyAll_cons, once] at none
  -- The count of the second run includes that of its first step.
  have absent := Regex.Program.find?_eq_none_iff_not_occurs.mpr
    (Regex.Program.count_replaceAll_eq_zero_iff.mp (Nat.add_eq_zero_iff.mp none).1)
  rw [absent] at again
  cases again

/-- A rename map with a pattern that is replaced by itself twice. -/
def growingMap : RenameMap :=
  { doublingMap with classes := .empty, contextual := [⟨"growing", "a", "aa"⟩] }

/-- A rename map with a pattern that matches the start of every text. -/
def startingMap : RenameMap :=
  { growingMap with contextual := [⟨"starting", "^", "a"⟩] }

/-- A rename map with a class that is replaced by what a pattern matches. -/
def revivingMap : RenameMap :=
  { growingMap with
    classes := .ofStrings [("na-list", "x")]
    contextual := [⟨"reviving", "x", "y"⟩] }

/-- A second run finds something as well if a pattern brings itself back, if it matches the empty
text, or if a later class brings it back. -/
theorem exists_not_idempotent_of_pattern : ∀ map ∈ [growingMap, startingMap, revivingMap],
    ∃ migration text, ofMap map .none = .ok migration ∧
      migration.migrateText (migration.migrateText text).content ≠
        { migration.migrateText text with replacements := 0 } := by
  simp only [List.forall_mem_cons]
  refine ⟨⟨_, "a", rfl, ?_⟩, ⟨_, "b", rfl, ?_⟩, ⟨_, " na-list ", rfl, ?_⟩, ?_⟩
  · -- The new text has the letter twice.
    have once : ((Regex.one (· = 'a')).compile.replaceAll "aa" ([] ++ (['a'] ++ []))).text =
        "aa".toList := by
      rw [Regex.Program.replaceAll, Regex.Program.replaceFrom_of_found (by simp)
        (Regex.Program.find?_eq_some_of_map (by decide +kernel)),
        Regex.Program.replaceFrom_of_none (Option.isNone_iff_eq_none.mp (by decide +kernel))]
      rfl
    exact not_idempotent_of_find? _ rfl once (by decide +kernel)
  · -- Every text has a start.
    refine not_idempotent_of_find? (.look .textStart) rfl rfl ?_
    have starts : ∀ text : Text,
        (Regex.look .textStart).compile.Matches (lastOr none []) [] text.head? :=
      fun _ => Regex.matches_compile_iff.mpr (.look rfl)
    obtain ⟨found, isFound, -⟩ := Regex.Program.exists_find?_of_matches (starts _)
    exact Option.isSome_iff_exists.mpr ⟨found, isFound⟩
  · -- The pattern finds nothing in the first run, in which it comes before the class.
    have once : ((Regex.one (· = 'x')).compile.replaceAll "y" " na-list ").text =
        " na-list ".toList := by
      rw [Regex.Program.replaceAll, Regex.Program.replaceFrom_of_none
        (Option.isNone_iff_eq_none.mp (by decide +kernel))]
    exact not_idempotent_of_find? _ rfl once (by decide +kernel)
  · exact fun map member => absurd member List.not_mem_nil

end Migration

end TokenGuard
