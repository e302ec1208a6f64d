import TokenGuard.Proofs.Migration.Exhaustive

/-! Whatever is left over after migrating was left over before: no step makes a residual token. -/

namespace TokenGuard

open Text

variable {map : RenameMap} {palette : RawPalette} {migration : Migration}
  {detector : ResidualDetector} {token? : Finder} {run token target : Text}
  {previous : Option Char} {c : Char}

/-- Next to a delimiter there is neither a token nor a word to go on, as at an end of the text. -/
theorem outsideLike_of_isDelimiter (delimiter : isDelimiter c = true) :
    outsideLike previous (some c) = outsideLike previous none := by
  simp [outsideLike, outsideToken, isTokenCharacter_of_isDelimiter delimiter,
    isAsciiWord_of_isDelimiter delimiter]

/-- Passing over a blank to the end of a word leaves as much to go on. -/
theorem outsideLike_filter (beside : Option Char) :
    outsideLike previous (beside.filter (!isBlank ·)) = outsideLike previous beside := by
  -- A blank is a delimiter, and any other character stays.
  cases beside with
  | none => rfl
  | some c =>
    cases blank : isBlank c with
    | false => simp [Option.filter, blank]
    | true =>
      have delimiter : isDelimiter c = true := by simp [isDelimiter, blank]
      simp [Option.filter, blank, outsideLike_of_isDelimiter delimiter]

/-- Behind a delimiter a text may start as at the start of a word. -/
theorem outsideLike_lastOr {prior : Char} (delimiter : isDelimiter prior = true) (front : Text) :
    outsideLike previous (lastOr (some prior) front) = outsideLike previous front.getLast? := by
  cases last : front.getLast? with
  | none => simp [lastOr, last, outsideLike_of_isDelimiter delimiter]
  | some c => simp [lastOr, last]

/-- No token goes on behind the end of a word if none goes on in the text around it. -/
theorem outsideToken_filter {beside : Option Char} (outside : outsideToken beside = true) :
    outsideToken (beside.filter (!isBlank ·)) = true := by
  cases beside with
  | none => rfl
  | some c => cases blank : isBlank c <;> simp_all [Option.filter, outsideToken]

/-- A maximal run with a token stands in no target without residual words. -/
theorem freshIn_of_run (named : detector.Named) (member : token? ∈ detector.finders)
    (clean : ∀ word ∈ words target, detector.detect word = [])
    (inside : ∀ c ∈ run, isTokenCharacter c = true)
    (found : token ∈ scanTokens token? previous 0 run) :
    FreshIn run (outsideLike previous) outsideToken target := by
  intro front back prior next delimiter same opened
  have filled : run ≠ [] := by rintro rfl; simp [scanTokens] at found
  -- A blank would end the run, so the run lies in one word of the target.
  have unblank : ∀ c ∈ run, isBlank c = false := fun c member =>
    Bool.eq_false_iff.mpr fun blank => by
      simpa [isTokenCharacter_of_isBlank blank] using inside c member
  obtain ⟨left, right, ofTarget, leftEnd, rightEnd⟩ := exists_word_around front back filled unblank
  refine Bool.eq_false_iff.mpr fun closed => ?_
  -- In the word of the target that it is a piece of, the run is just as isolated.
  have opened : outsideLike previous left.getLast? = true := by
    rw [leftEnd, outsideLike_filter, ← outsideLike_lastOr delimiter, opened]
  have closed : outsideToken right.head? = true := by
    rw [rightEnd]
    refine outsideToken_filter ?_
    cases first : back.head? with
    | none => rfl
    | some c => simpa [first] using closed
  have stands : StandsIn run (outsideLike previous) outsideToken (left ++ run ++ right) :=
    ⟨left, run ++ right, by simp, by rwa [lastOr, Option.or_none], right, rfl, closed⟩
  have residual := (ResidualDetector.mem_detect_iff_run named).mpr
    ⟨token?, member, previous, run, inside, found, stands⟩
  rw [clean _ (same ▸ ofTarget)] at residual
  simp at residual

namespace Migration

/-- Without patterns and imports a migration never makes a key stand anywhere that all rules keep
out of their targets, if no rule has a name that can stand twice in a row. -/
theorem standsIn_of_applyAll {key text : Text} {opens closes : Neighbour}
    (noContextual : migration.contextual = []) (noImports : migration.imports = [])
    (filled : key ≠ []) (plain : ∀ c ∈ key, isDelimiter c = false)
    (apart : ∀ rule ∈ migration.tokenRules, rule.abuts = false)
    (fresh : ∀ rule ∈ migration.tokenRules, FreshIn key opens closes rule.2)
    (stands : StandsIn key opens closes (applyAll migration.steps text).text) :
    StandsIn key opens closes text := by
  have ordered : migration.steps = migration.tokenRules.map Rule.onTokens ++
      migration.classes.map Rule.onSelectors := by
    simp [steps_eq noImports, noContextual]
  have everywhere : ∀ rule ∈ migration.tokenRules ++ migration.classes,
      FreshIn key opens closes rule.2 := by
    intro rule member
    rcases List.mem_append.mp member with ofTokens | ofClasses
    · exact fresh rule ofTokens
    · exact fresh rule (List.mem_append_left _ ofClasses)
  -- Step by step the key stands in a text only if it stood in the one before.
  rw [ordered] at stands
  refine applyAll_preserves (fun left => StandsIn key opens closes left →
    StandsIn key opens closes text) ?_ id stands
  intro step member left before stands
  exact before (standsIn_of_step filled plain apart everywhere member stands)

/-- After migrating with class rules alone, none of which has a name that can stand twice in a
row, the detector reports only what it reported before. -/
theorem unmapped_subset_detect (accepted : ofMap map palette = .ok migration)
    (noContextual : map.contextual = []) (noImports : map.imports.entries = [])
    (named : migration.detector.Named)
    (apart : ∀ rule ∈ map.classes.entries ++ map.rawValues.entries, Rule.abuts rule = false)
    (text : Text) :
    (migration.migrateText text).unmapped ⊆ migration.detector.detect text ∧
      (migration.detector.detect text = [] → (migration.migrateText text).unmapped = []) := by
  obtain ⟨-, compiled, -, -, imports⟩ := of_ofMap accepted
  have noContextual : migration.contextual = [] := by
    rw [RenameMap.compileContextual, noContextual] at compiled
    exact (Except.ok.inj compiled).symm
  have apart : ∀ rule ∈ migration.tokenRules, rule.abuts = false :=
    fun rule member => apart rule ((mem_tokenRules_iff accepted).mp member)
  have subset : (migration.migrateText text).unmapped ⊆ migration.detector.detect text := by
    intro token unmapped
    obtain ⟨token?, member, previous, run, inside, found, stands⟩ :=
      (ResidualDetector.mem_detect_iff_run named).mp unmapped
    -- The run with the token stood in the text before, for no target has it on its own.
    have filled : run ≠ [] := by rintro rfl; simp [scanTokens] at found
    have plain : ∀ c ∈ run, isDelimiter c = false := fun c member =>
      Bool.eq_false_iff.mpr fun delimiter => by
        simpa [isTokenCharacter_of_isDelimiter delimiter] using inside c member
    have fresh : ∀ rule ∈ migration.tokenRules,
        FreshIn run (outsideLike previous) outsideToken rule.2 := fun rule ofTokens =>
      freshIn_of_run named member (fun word => detect_word accepted ofTokens) inside found
    exact (ResidualDetector.mem_detect_iff_run named).mpr ⟨token?, member, previous, run, inside,
      found, standsIn_of_applyAll noContextual (imports.trans noImports) filled plain apart fresh
        stands⟩
  exact ⟨subset, fun nothing => List.subset_nil.mp (nothing ▸ subset)⟩

/-- The unknown class the sample text keeps was reported before the migration as well. -/
theorem unmapped_subset_detect_sample :
    ∃ migration, ofMap sampleMap samplePalette = .ok migration ∧
      (migration.migrateText sampleText).unmapped ⊆ migration.detector.detect sampleText := by
  refine ⟨_, rfl, ?_⟩
  exact (@unmapped_subset_detect sampleMap samplePalette _ rfl rfl rfl (by decide +kernel)
    (by decide +kernel) sampleText).1

/-- If a name may stand twice in a row, its target can make a token of which nothing was there. -/
theorem not_unmapped_subset_of_abutting :
    ¬ ∀ (map : RenameMap) (palette : RawPalette) (migration : Migration) (text : Text),
      ofMap map palette = .ok migration → map.contextual = [] → map.imports.entries = [] →
      migration.detector.Named →
      (migration.migrateText text).unmapped ⊆ migration.detector.detect text := by
  intro all
  -- The two dollars are no token, but their targets side by side are one.
  have origin := @all abuttingMap .none _ " $$ " rfl rfl rfl (by decide +kernel) "na-na-"
    (by decide +kernel)
  exact absurd origin (by decide +kernel)

end Migration

end TokenGuard
