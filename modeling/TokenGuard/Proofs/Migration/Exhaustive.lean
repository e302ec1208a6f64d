import TokenGuard.Proofs.Migration.Accepted

/-! A mapped name is gone after migrating: its own rule replaces it, and no later one brings it
back. -/

namespace TokenGuard

open Text

variable {map : RenameMap} {palette : RawPalette} {migration : Migration} {rule : Rule}
  {detector : ResidualDetector} {key target front back text : Text} {opens closes : Neighbour}

/-- A name occurs as a class token. -/
def StandsAsToken (name text : Text) : Prop :=
  StandsIn name (besideCharacter opensClass) (besideCharacter closesClass) text

/-- A name occurs as a class in a selector. -/
def StandsInSelector (name text : Text) : Prop :=
  StandsIn ('.' :: name) (fun _ => true) (besideCharacter closesSelector) text

/-- A residual name has a character. -/
theorem ResidualDetector.ne_nil_of_detect (residual : detector.detect key ≠ []) : key ≠ [] := by
  rintro rfl
  exact residual (detect_eq_nil_iff.mpr fun _ _ => rfl)

/-- A residual name stands in a target without residual words only where it continues a word. -/
theorem any_isAsciiWord_of_residual (clean : ∀ word ∈ words target, detector.detect word = [])
    (residual : detector.detect key ≠ []) (plain : ∀ c ∈ key, isDelimiter c = false)
    (same : target = front ++ key ++ back) : front.getLast?.any isAsciiWord = true := by
  have unblank : ∀ c ∈ key, isBlank c = false := fun c member =>
    (Bool.or_eq_false_iff.mp (plain c member)).1
  -- The word around it in the target would be residual, as it has the same character before it.
  obtain ⟨left, right, member, opened, -⟩ :=
    exists_word_around front back (ResidualDetector.ne_nil_of_detect residual) unblank
  by_contra other
  have opened : left.getLast?.any isAsciiWord = false := by
    rw [opened]
    cases last : front.getLast? with
    | none => rfl
    | some c => cases blank : isBlank c <;> simp_all
  exact detector.detect_ne_nil_of_piece residual opened right (clean _ (same ▸ member))

/-- A residual name that only counts behind delimiters is kept out of a target without residual
words. -/
theorem freshIn_of_residual (clean : ∀ word ∈ words target, detector.detect word = [])
    (residual : detector.detect key ≠ []) (plain : ∀ c ∈ key, isDelimiter c = false) :
    FreshIn key (besideCharacter opensClass) closes target := by
  intro front back prior next delimiter same opened
  -- What opens a token is a delimiter, which no word goes on from.
  have continued := any_isAsciiWord_of_residual clean residual plain same
  cases last : front.getLast? with
  | none => simp [last] at continued
  | some c =>
    have opened : opensClass c = true := by simpa [lastOr, last, besideCharacter] using opened
    simp [last, isAsciiWord_of_isDelimiter (isDelimiter_of_opensClass opened)] at continued

/-- A residual name behind a dot is foreign to a rule for selectors whose target has no residual
words. -/
theorem foreign_selector (clean : ∀ word ∈ words rule.2, detector.detect word = [])
    (residual : detector.detect key ≠ []) (plain : ∀ c ∈ key, isDelimiter c = false) :
    Foreign ('.' :: key) (fun _ => true) (besideCharacter closesSelector) ('.' :: rule.1)
      ('.' :: rule.2) (fun _ => true) (besideCharacter closesSelector) where
  filled := by simp
  replaces := by simp
  closed := by
    intro c member
    rcases List.mem_cons.mp member with rfl | member
    · decide
    · -- No character of a name ends a class in a selector.
      refine Bool.eq_false_iff.mpr fun closed => ?_
      simpa [plain c member] using isDelimiter_of_closesSelector closed
  unbroken := .inr ⟨'.', rfl, rfl, fun member => absurd (plain '.' member) (by decide)⟩
  apart _ := rfl
  fresh := by
    intro front back prior next _ _ same _
    -- In the target itself the name stands at the start or behind a dot.
    cases front with
    | nil =>
      have same : rule.2 = [] ++ key ++ back := (List.cons.inj same).2
      exact absurd (any_isAsciiWord_of_residual clean residual plain same) (by simp)
    | cons d front =>
      have same : rule.2 = front ++ ['.'] ++ key ++ back := by
        simpa using (List.cons.inj same).2
      exact absurd (any_isAsciiWord_of_residual clean residual plain same)
        (by simp [show isAsciiWord '.' = false by decide])

/-- The last rule for a name parts rules into those before and those behind it. -/
theorem Rule.exists_eq_append {rules : List Rule} (known : ∃ rule ∈ rules, rule.1 = key) :
    ∃ before target, rules = before ++ (key, target) :: rules.rtakeWhile (·.1 ≠ key) := by
  -- From the end, rules for other names are passed over until one for the name comes.
  induction rules using List.reverseRec with
  | nil => simp at known
  | append_singleton rules last ih =>
    by_cases same : last.1 = key
    · subst same
      exact ⟨rules, last.2, by simp⟩
    · -- The last rule is one of those behind, so the rule for the name comes earlier.
      obtain ⟨rule, member, ofKey⟩ := known
      have earlier : rule ∈ rules := by
        rcases List.mem_append.mp member with earlier | isLast
        · exact earlier
        · exact absurd (List.mem_singleton.mp isLast ▸ ofKey) same
      obtain ⟨before, target, parted⟩ := ih ⟨rule, earlier, ofKey⟩
      refine ⟨before, target, ?_⟩
      rw [List.rtakeWhile_concat_pos _ _ _ (by simpa using same), ← List.cons_append,
        ← List.append_assoc, ← parted]

/-- A name without delimiters does not stand twice in a row. -/
theorem Rule.abuts_eq_false (plain : ∀ c ∈ rule.1, isDelimiter c = false) :
    rule.abuts = false := by
  -- A name that stands behind itself would start with a delimiter.
  cases first : rule.1.head? with
  | none => simp [abuts, first, besideCharacter]
  | some c =>
    have other : closesClass c = false := Bool.eq_false_iff.mpr fun closed => by
      simpa [plain c (List.mem_of_mem_head? first)] using isDelimiter_of_closesClass closed
    simp [abuts, first, besideCharacter, other]

namespace Migration

/-- The rules for class tokens that are used behind the last one for a name. -/
def rulesBehind (migration : Migration) (name : Text) : List Rule :=
  migration.tokenRules.rtakeWhile (·.1 ≠ name)

/-- Without imports the steps are patterns, rules for class tokens and rules for selectors. -/
theorem steps_eq (noImports : migration.imports = []) : migration.steps =
    migration.contextual.map (fun rule text => rule.1.replaceAll rule.2 text) ++
      (migration.tokenRules.map Rule.onTokens ++ migration.classes.map Rule.onSelectors) := by
  simp [steps, tokenRules, noImports]

/-- A name that is the key of a rule is none of a class token in the end, if its rule is followed
only by rules whose names cannot stand twice in a row. -/
theorem not_standsIn_as_token (noImports : migration.imports = [])
    (clean : ∀ rule ∈ migration.tokenRules, ∀ word ∈ words rule.2,
      migration.detector.detect word = [])
    (known : ∃ rule ∈ migration.tokenRules, rule.1 = key)
    (residual : migration.detector.detect key ≠ []) (plain : ∀ c ∈ key, isDelimiter c = false)
    (apart : ∀ rule ∈ migration.rulesBehind key, rule.abuts = false) (text : Text) :
    ¬ StandsAsToken key (applyAll migration.steps text).text := by
  have filled := ResidualDetector.ne_nil_of_detect residual
  have fresh : ∀ rule ∈ migration.tokenRules,
      FreshIn key (besideCharacter opensClass) (besideCharacter closesClass) rule.2 :=
    fun rule member => freshIn_of_residual (clean rule member) residual plain
  obtain ⟨before, target, parted⟩ := Rule.exists_eq_append known
  -- What follows are rules for tokens and, once more, those of the classes for selectors.
  have ofBehind : ∀ rule ∈ migration.rulesBehind key ++ migration.classes,
      rule ∈ migration.tokenRules := by
    intro rule member
    rcases List.mem_append.mp member with behind | ofClasses
    · exact (List.rtakeWhile_suffix _ _).subset behind
    · exact List.mem_append_left _ ofClasses
  -- The last rule for the name replaces it, and the steps behind that one do not bring it back.
  have ordered : migration.steps =
      migration.contextual.map (fun rule text => rule.1.replaceAll rule.2 text) ++
        before.map Rule.onTokens ++ Rule.onTokens (key, target) ::
          ((migration.rulesBehind key).map Rule.onTokens ++
            migration.classes.map Rule.onSelectors) := by
    rw [steps_eq noImports, parted]
    simp [rulesBehind]
  rw [ordered]
  refine applyAll_settles (fun text => ¬ StandsAsToken key text) ?_ ?_
  · intro text
    -- The rule itself leaves the name nowhere, as its target was checked.
    have own : (key, target) ∈ migration.tokenRules := by rw [parted]; simp
    have foreign := foreign_onTokens filled plain filled (Rule.abuts_eq_false plain) (fresh _ own)
    exact not_standsIn_replaceBounded foreign
  · intro step member text gone
    exact fun stands => gone (standsIn_of_step filled plain apart
      (fun rule member => fresh rule (ofBehind rule member)) member stands)

/-- A name that is the key of a class rule is none of a class in a selector in the end. -/
theorem not_standsIn_in_selector (noImports : migration.imports = [])
    (clean : ∀ rule ∈ migration.tokenRules, ∀ word ∈ words rule.2,
      migration.detector.detect word = [])
    (known : ∃ rule ∈ migration.classes, rule.1 = key)
    (residual : migration.detector.detect key ≠ []) (plain : ∀ c ∈ key, isDelimiter c = false)
    (text : Text) :
    ¬ StandsInSelector key (applyAll migration.steps text).text := by
  have foreign : ∀ rule ∈ migration.classes, Foreign ('.' :: key) (fun _ => true)
      (besideCharacter closesSelector) ('.' :: rule.1) ('.' :: rule.2) (fun _ => true)
      (besideCharacter closesSelector) := fun rule member =>
    foreign_selector (clean rule (List.mem_append_left _ member)) residual plain
  -- No rule for selectors makes the name stand anywhere, and its own rule replaces it.
  obtain ⟨rule, member, rfl⟩ := known
  obtain ⟨before, after, parted⟩ := List.append_of_mem member
  have ordered : migration.steps =
      migration.contextual.map (fun rule text => rule.1.replaceAll rule.2 text) ++
        migration.tokenRules.map Rule.onTokens ++ before.map Rule.onSelectors ++
          rule.onSelectors :: after.map Rule.onSelectors := by
    rw [steps_eq noImports, parted]
    simp
  rw [ordered]
  refine applyAll_settles (fun text => ¬ StandsInSelector rule.1 text) ?_ ?_
  · intro text
    exact not_standsIn_replaceBounded (foreign rule member)
  · intro step member text gone
    obtain ⟨other, ofAfter, rfl⟩ := List.mem_map.mp member
    have ofClasses : other ∈ migration.classes := by rw [parted]; simp [ofAfter]
    exact fun stands => gone (standsIn_of_replaceBounded (foreign other ofClasses) stands)

/-- After migrating without imports no residual name of the map is left as a class in a selector,
and none as a class token if every rule behind its last one has a name that cannot stand twice in
a row. -/
theorem migrateText_exhaustive (accepted : ofMap map palette = .ok migration)
    (noImports : map.imports.entries = []) (known : key ∈ map.classes.keys ++ map.rawValues.keys)
    (residual : migration.detector.detect key ≠ []) (plain : ∀ c ∈ key, isDelimiter c = false)
    (text : Text) :
    ((∀ rule ∈ migration.rulesBehind key, rule.abuts = false) →
      ¬ StandsAsToken key (migration.migrateText text).content) ∧
    (key ∈ map.classes.keys →
      ¬ StandsInSelector key (migration.migrateText text).content) := by
  -- All that was checked of the map holds of the rules of the migration.
  have noImports : migration.imports = [] := (of_ofMap accepted).2.2.2.2.trans noImports
  have clean : ∀ rule ∈ migration.tokenRules, ∀ word ∈ words rule.2,
      migration.detector.detect word = [] :=
    fun rule member word ofTarget => detect_word accepted member ofTarget
  constructor
  · intro apart
    have known : ∃ rule ∈ migration.tokenRules, rule.1 = key := by
      simp only [OrderedMap.keys, ← List.map_append, List.mem_map] at known
      simpa only [mem_tokenRules_iff accepted] using known
    exact not_standsIn_as_token noImports clean known residual plain apart text
  · intro ofClass
    have known : ∃ rule ∈ migration.classes, rule.1 = key := by
      simpa only [mem_classes_iff accepted, OrderedMap.keys, List.mem_map] using ofClass
    exact not_standsIn_in_selector noImports clean known residual plain text

/-- A rename map with a class and a color behind it. -/
def sampleMap : RenameMap where
  legacyLead := "na-"
  classes := .ofStrings [("na-card", "card")]
  rawValues := .ofStrings [("bg-red-500", "bg-danger")]
  imports := .empty
  contextual := []
  canonicalClasses := []

/-- The palette with the color of the sample map. -/
def samplePalette : RawPalette := ⟨["bg"], ["red"]⟩

/-- A text with the class of the sample map as a token and in a selector, and an unknown one. -/
def sampleText : Text := "<p class=\x22na-card na-old\x22/> .na-card \x7b\x7d"

/-- The class of the sample map is gone from the text that has it in both ways. -/
theorem migrateText_exhaustive_sample :
    ∃ migration, ofMap sampleMap samplePalette = .ok migration ∧
      ¬ StandsAsToken "na-card" (migration.migrateText sampleText).content ∧
      ¬ StandsInSelector "na-card" (migration.migrateText sampleText).content := by
  refine ⟨_, rfl, ?_⟩
  have gone := @migrateText_exhaustive sampleMap samplePalette _ "na-card" rfl rfl
    (by decide +kernel) (by decide +kernel) (plain_of_all (by decide +kernel)) sampleText
  exact ⟨gone.1 (by decide +kernel), gone.2 (by decide +kernel)⟩

/-- A rename map whose second name may stand twice in a row, and then brings back the first. -/
def abuttingMap : RenameMap :=
  { sampleMap with
    classes := .ofStrings [("na-na-", "card")]
    rawValues := .ofStrings [("$", "na-")] }

/-- If a name may stand twice in a row, its target can bring back a name that was replaced. -/
theorem not_exhaustive_of_abutting :
    ¬ ∀ (map : RenameMap) (palette : RawPalette) (migration : Migration) (key text : Text),
      ofMap map palette = .ok migration → map.imports.entries = [] →
      key ∈ map.classes.keys ++ map.rawValues.keys → migration.detector.detect key ≠ [] →
      (∀ c ∈ key, isDelimiter c = false) →
      ¬ StandsAsToken key (migration.migrateText text).content ∧
        (key ∈ map.classes.keys →
          ¬ StandsInSelector key (migration.migrateText text).content) := by
  intro all
  -- The two dollars become the name that the rule before them has just looked for.
  refine (all abuttingMap .none _ "na-na-" " $$ " rfl rfl (by decide +kernel) (by decide +kernel)
    (plain_of_all (by decide +kernel))).1 ?_
  exact ⟨" ", "na-na- ", by decide +kernel, by decide, " ", by decide, by decide⟩

end Migration

end TokenGuard
