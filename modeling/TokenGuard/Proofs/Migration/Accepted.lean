import TokenGuard.Proofs.Migration.Neighbour

/-! An accepted rename map has no residual word in a target, and its steps run in order. -/

namespace TokenGuard

variable {map : RenameMap} {palette : RawPalette} {migration : Migration} {rule : Rule}
  {detector : ResidualDetector} {word text : Text}
  {before after : List (Text → Replaced)} {step : Text → Replaced}

/-- A rename map is verified exactly if it has no target that is not acceptable. -/
theorem RenameMap.verify_eq_ok_iff :
    map.verify detector = .ok () ↔ map.invalidTargets detector = [] := by
  unfold verify
  split <;> simp_all

/-- No word of a class rule in a verified map has a fault. -/
theorem RenameMap.classFault?_of_verify (verified : map.verify detector = .ok ())
    (member : rule ∈ map.classRules) (ofTarget : word ∈ Text.words rule.2) :
    map.classFault? detector word = none := by
  -- Each class of each rule was looked at, and none was found to have a fault.
  have faultless := (List.append_eq_nil_iff.mp (verify_eq_ok_iff.mp verified)).1
  have ofRule := List.flatMap_eq_nil_iff.mp faultless rule member
  simpa using List.filterMap_eq_nil_iff.mp ofRule word ofTarget

/-- No word of a class rule in a verified map is residual. -/
theorem RenameMap.detect_word_of_verify (verified : map.verify detector = .ok ())
    (member : rule ∈ map.classRules) (ofTarget : word ∈ Text.words rule.2) :
    detector.detect word = [] := by
  have ofWord := classFault?_of_verify verified member ofTarget
  -- Being residual is the first fault that a word may have.
  by_contra residual
  simp [classFault?, residual] at ofWord

namespace Migration

/-- The rules for class tokens in the order of their use. -/
def tokenRules (migration : Migration) : List Rule := migration.classes ++ migration.rawValues

/-- A migration is made from a verified map with its rules in a different order at most. -/
theorem of_ofMap (accepted : ofMap map palette = .ok migration) :
    map.verify migration.detector = .ok () ∧
      map.compileContextual = .ok migration.contextual ∧
      migration.classes = Rule.longestFirst map.classes.entries ∧
      migration.rawValues = Rule.longestFirst map.rawValues.entries ∧
      migration.imports = map.imports.entries := by
  -- First the targets are checked, and then the patterns are compiled.
  simp only [ofMap, Bind.bind, Except.bind, Pure.pure, Except.pure] at accepted
  split at accepted
  · simp at accepted
  · next verified =>
    split at accepted
    · simp at accepted
    · next compiled =>
      obtain rfl := Except.ok.inj accepted
      exact ⟨verified, compiled, rfl, rfl, rfl⟩

/-- Sorting rules by length neither adds nor loses one. -/
theorem mem_longestFirst_iff {rules : List Rule} : rule ∈ Rule.longestFirst rules ↔ rule ∈ rules :=
  (List.mergeSort_perm _ _).mem_iff

/-- The class rules of an accepted map are those of the migration. -/
theorem mem_classes_iff (accepted : ofMap map palette = .ok migration) :
    rule ∈ migration.classes ↔ rule ∈ map.classes.entries := by
  rw [(of_ofMap accepted).2.2.1, mem_longestFirst_iff]

/-- The rules for class tokens of an accepted map are those of the migration. -/
theorem mem_tokenRules_iff (accepted : ofMap map palette = .ok migration) :
    rule ∈ migration.tokenRules ↔ rule ∈ map.classes.entries ++ map.rawValues.entries := by
  rw [tokenRules, List.mem_append, List.mem_append, mem_classes_iff accepted,
    (of_ofMap accepted).2.2.2.1, mem_longestFirst_iff]

/-- No word of a target in an accepted map is residual. -/
theorem detect_word (accepted : ofMap map palette = .ok migration)
    (member : rule ∈ migration.tokenRules) (ofTarget : word ∈ Text.words rule.2) :
    migration.detector.detect word = [] :=
  RenameMap.detect_word_of_verify (of_ofMap accepted).1
    (List.mem_append_left _ ((mem_tokenRules_iff accepted).mp member)) ofTarget

end Migration

/-- Only the text that a step leaves matters for the next one. -/
theorem applyAll_text (steps : List (Text → Replaced)) (text : Text) :
    (applyAll steps text).text = steps.foldl (fun left step => (step left).text) text := by
  -- The counts that are added up beside the text do not influence it.
  have counted : ∀ done : Replaced, (steps.foldl (fun done step =>
      let next := step done.text
      ⟨next.text, done.count + next.count⟩) done).text =
        steps.foldl (fun left step => (step left).text) done.text := by
    induction steps with
    | nil => intro done; rfl
    | cons step steps ih => intro done; exact ih _
  exact counted ⟨text, 0⟩

/-- The first step is applied to the text itself, and its count is added to that of the others. -/
theorem applyAll_cons (step : Text → Replaced) (steps : List (Text → Replaced)) (text : Text) :
    applyAll (step :: steps) text =
      ⟨(applyAll steps (step text).text).text,
        (step text).count + (applyAll steps (step text).text).count⟩ := by
  -- Counting on from a number adds it to the count.
  have counted : ∀ done : Replaced, steps.foldl (fun done step =>
      let next := step done.text
      ⟨next.text, done.count + next.count⟩) done =
        ⟨(applyAll steps done.text).text, done.count + (applyAll steps done.text).count⟩ := by
    unfold applyAll
    induction steps with
    | nil => intro done; rfl
    | cons other steps ih =>
      intro done
      simp only [List.foldl_cons]
      rw [ih, ih ⟨(other done.text).text, 0 + (other done.text).count⟩]
      simp [Nat.add_assoc]
  simpa [applyAll] using counted ⟨(step text).text, (step text).count⟩

/-- Steps in order are those of a first part and then those of a second one. -/
theorem applyAll_append (before after : List (Text → Replaced)) (text : Text) :
    (applyAll (before ++ after) text).text =
      (applyAll after (applyAll before text).text).text := by
  simp [applyAll_text]

/-- What every step preserves all of them preserve. -/
theorem applyAll_preserves (holds : Text → Prop) {steps : List (Text → Replaced)}
    (each : ∀ step ∈ steps, ∀ text, holds text → holds (step text).text) (start : holds text) :
    holds (applyAll steps text).text := by
  -- The text that a step leaves is the one that the next step starts from.
  rw [applyAll_text]
  induction steps generalizing text with
  | nil => exact start
  | cons step steps ih =>
    exact ih (fun other member => each other (by simp [member])) (each step (by simp) text start)

/-- What one step brings about and all later ones preserve holds in the end. -/
theorem applyAll_settles (holds : Text → Prop) (settles : ∀ text, holds (step text).text)
    (each : ∀ step ∈ after, ∀ text, holds text → holds (step text).text) :
    holds (applyAll (before ++ step :: after) text).text := by
  rw [applyAll_append]
  -- What stands in front of the step is of no account, since it settles every text.
  have first : (applyAll (step :: after) (applyAll before text).text).text =
      (applyAll after (step (applyAll before text).text).text).text := by simp [applyAll_text]
  rw [first]
  exact applyAll_preserves holds each (settles _)

end TokenGuard
