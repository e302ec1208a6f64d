import TokenGuard.Proofs.Migration.Accepted
import TokenGuard.Proofs.Migration.Stretch

/-! A verified rename map lists every token utility that stands between blanks in a target, but not
one between other class delimiters. -/

namespace TokenGuard

variable {map : RenameMap} {detector : ResidualDetector} {rule : Rule} {word text : Text}

/-- What shows a token: small letters and hyphens, the first one a letter, then the mark of a token,
and one or more small letters, digits or hyphens. -/
def ShowsToken (text : Text) : Prop :=
  ∃ first lead tail, text = first :: (lead ++ ("-nx-" : Text) ++ tail) ∧
    isSmallLetter first = true ∧ (∀ c ∈ lead, (isSmallLetter c || c = '-') = true) ∧ tail ≠ [] ∧
    ∀ c ∈ tail, isLegacyTail c = true

/-- The end of a token utility is looked for behind small letters and hyphens. -/
theorem endsAsTokenUtility_iff :
    endsAsTokenUtility text = true ↔ ∃ lead tail, text = lead ++ ("-nx-" : Text) ++ tail ∧
      (∀ c ∈ lead, (isSmallLetter c || c = '-') = true) ∧ tail ≠ [] ∧
      ∀ c ∈ tail, isLegacyTail c = true := by
  -- Either the mark stands at the front or one more letter does.
  induction text with
  | nil => simp [endsAsTokenUtility]
  | cons c rest ih =>
    rw [endsAsTokenUtility, Bool.or_eq_true, Bool.and_eq_true, ih]
    constructor
    · rintro (here | ⟨letter, lead, tail, rfl, letters, filled, tails⟩)
      · -- The mark is found right away.
        cases found : Text.dropPrefix? "-nx-" (c :: rest) with
        | none =>
          rw [found] at here
          cases here
        | some tail =>
          rw [found] at here
          simp only [Bool.and_eq_true, Bool.not_eq_true', List.isEmpty_eq_false_iff,
            List.all_eq_true] at here
          exact ⟨[], tail, Text.dropPrefix?_eq_some_iff.mp found, by simp, here⟩
      · -- The mark is found later, and the letter belongs to what is in front of it.
        exact ⟨c :: lead, tail, rfl, List.forall_mem_cons.mpr ⟨letter, letters⟩, filled, tails⟩
    · rintro ⟨lead, tail, same, letters, filled, tails⟩
      cases lead with
      | nil =>
        left
        have found : Text.dropPrefix? "-nx-" (c :: rest) = some tail :=
          Text.dropPrefix?_eq_some_iff.mpr same
        rw [found]
        simp only [Bool.and_eq_true, Bool.not_eq_true', List.isEmpty_eq_false_iff,
          List.all_eq_true]
        exact ⟨filled, tails⟩
      | cons d lead =>
        right
        obtain ⟨rfl, behind⟩ := List.cons.inj same
        rw [List.forall_mem_cons] at letters
        exact ⟨letters.1, lead, tail, behind, letters.2, filled, tails⟩

/-- What is taken for a token utility shows a token. -/
theorem isTokenUtility_iff : isTokenUtility text = true ↔ ShowsToken text := by
  cases text with
  | nil => simp [isTokenUtility, ShowsToken]
  | cons c rest =>
    rw [isTokenUtility, Bool.and_eq_true, endsAsTokenUtility_iff, ShowsToken]
    -- The first letter is the one in front.
    constructor
    · rintro ⟨letter, lead, tail, rfl, parts⟩
      exact ⟨c, lead, tail, rfl, letter, parts⟩
    · rintro ⟨first, lead, tail, same, letter, parts⟩
      obtain ⟨rfl, behind⟩ := List.cons.inj same
      exact ⟨letter, lead, tail, behind, parts⟩

/-- A utility behind variants, the last of which ends with a colon. -/
def IsUtilityOf (utility name : Text) : Prop :=
  ':' ∉ utility ∧ ∃ variants, name = variants ++ utility ∧ variants.getLast?.all (· = ':') = true

/-- What is left of a name without its variants is its utility. -/
theorem stripVariants_of_isUtilityOf {utility name : Text} (isUtility : IsUtilityOf utility name) :
    stripVariants name = utility := by
  obtain ⟨plain, variants, rfl, ends⟩ := isUtility
  -- A utility has no colon, which ends a variant.
  have inside : ∀ c ∈ utility.reverse, (c ≠ ':' : Bool) = true := by
    intro c member
    have other : c ≠ ':' := by
      rintro rfl
      exact plain (List.mem_reverse.mp member)
    simpa using other
  -- Read from the end, the utility goes on to the colon of the last variant.
  rw [stripVariants, List.reverse_append, List.takeWhile_append_of_pos inside]
  cases last : variants.getLast? with
  | none =>
    rw [List.getLast?_eq_none_iff.mp last]
    simp
  | some d =>
    obtain ⟨front, rfl⟩ := List.getLast?_eq_some_iff.mp last
    have colon : d = ':' := by simpa using ends
    simp [colon]

namespace RenameMap

/-- A word of a target in a verified map is listed if it shows a token. -/
theorem mem_canonicalClasses_of_verify (verified : map.verify detector = .ok ())
    (member : rule ∈ map.classRules) (ofTarget : word ∈ Text.words rule.2) {utility : Text}
    (isUtility : IsUtilityOf utility word) (shows : ShowsToken utility) :
    word ∈ map.canonicalClasses := by
  have faultless := classFault?_of_verify verified member ofTarget
  have token : isTokenUtility (stripVariants word) = true := by
    rw [stripVariants_of_isUtilityOf isUtility]
    exact isTokenUtility_iff.mpr shows
  -- A word that were not listed would have a fault.
  refine Decidable.byContradiction fun unlisted => ?_
  simp [classFault?, detect_word_of_verify verified member ofTarget, token, unlisted] at faultless

/-- In a verified map, a class token of a target that stands between blanks or ends of the target is
listed if it shows a token; so all are where the target has no other class delimiters. -/
theorem stretches_listed (verified : map.verify detector = .ok ())
    (member : rule ∈ map.classRules) :
    (∀ word ∈ Text.words rule.2, ∀ utility, IsUtilityOf utility word → ShowsToken utility →
        word ∈ map.canonicalClasses) ∧
      (∀ s ∈ stretches none rule.2 none, s.before.all isBlank = true → s.after.all isBlank = true →
        ∀ utility, IsUtilityOf utility s.content → ShowsToken utility →
          s.content ∈ map.canonicalClasses) ∧
      ((∀ c ∈ rule.2, isClassDelimiter c = true → isBlank c = true) →
        ∀ s ∈ stretches none rule.2 none, ∀ utility, IsUtilityOf utility s.content →
          ShowsToken utility → s.content ∈ map.canonicalClasses) := by
  -- Checked are the words, so everything comes down to a stretch being a word.
  have words : ∀ word ∈ Text.words rule.2, ∀ utility, IsUtilityOf utility word →
      ShowsToken utility → word ∈ map.canonicalClasses :=
    fun word ofTarget utility => mem_canonicalClasses_of_verify verified member ofTarget
  have between : ∀ s ∈ stretches none rule.2 none, s.before.all isBlank = true →
      s.after.all isBlank = true → ∀ utility, IsUtilityOf utility s.content →
        ShowsToken utility → s.content ∈ map.canonicalClasses := by
    intro s inTarget opened closed utility isUtility shows
    obtain ⟨plain, front, back, divided, -, -, prior, next⟩ := mem_stretches_iff.mp inTarget
    -- The stretch is a word, since blanks are class delimiters.
    have filled : s.content ≠ [] := by
      obtain ⟨-, variants, same, -⟩ := isUtility
      obtain ⟨first, lead, tail, rfl, -⟩ := shows
      simp [same]
    have unblank : ∀ c ∈ s.content, isBlank c = false := by
      intro c inside
      have other := plain c inside
      simp only [isClassDelimiter, opensClass, Bool.or_eq_false_iff] at other
      exact other.1.2
    have ofTarget : s.content ∈ Text.words rule.2 := by
      rw [divided]
      exact Text.mem_words_between filled unblank (by simpa [prior, Text.lastOr] using opened)
        (by simpa [next] using closed)
    exact words s.content ofTarget utility isUtility shows
  refine ⟨words, between, fun blanks s inTarget utility => ?_⟩
  -- What stands beside a stretch is a delimiter of the target.
  obtain ⟨-, front, back, divided, opened, closed, prior, next⟩ := mem_stretches_iff.mp inTarget
  apply between s inTarget
  · rw [prior]
    cases last : front.getLast? with
    | none => simp [Text.lastOr, last]
    | some c =>
      have inside : c ∈ rule.2 := by
        rw [divided]
        simp [List.mem_of_getLast? last]
      simpa [Text.lastOr, last] using blanks c inside (opened c last)
  · rw [next]
    cases first : back.head? with
    | none => simp
    | some c =>
      have inside : c ∈ rule.2 := by
        rw [divided]
        simp [List.mem_of_head? first]
      simpa using blanks c inside (closed c first)

/-- A map with a class of two token utilities, one with a variant, and a replacement in which one
stands between quotes. -/
def quotedMap : RenameMap where
  legacyLead := "na-"
  classes := .ofList [("na-card".toList, "bg-nx-surface hover:bg-nx-raised".toList)]
  rawValues := .empty
  imports := .empty
  contextual := [⟨"badge", "na-badge", "badge-$\x7bon ? \x27bg-nx-unlisted\x27 : \x27\x27\x7d"⟩]
  canonicalClasses := ["bg-nx-surface", "hover:bg-nx-raised"]

/-- The targets of this map are acceptable. -/
theorem verify_quotedMap : quotedMap.verify ⟨"na-", .none⟩ = .ok () := by decide +kernel

/-- The class with a variant is listed as it stands. -/
theorem stretches_listed_sample :
    quotedMap.verify ⟨"na-", .none⟩ = .ok () ∧
      (("na-card", "bg-nx-surface hover:bg-nx-raised") : Text × Text) ∈ quotedMap.classRules ∧
      ("hover:bg-nx-raised" : Text) ∈ quotedMap.canonicalClasses := by
  have member : (("na-card", "bg-nx-surface hover:bg-nx-raised") : Text × Text) ∈
      quotedMap.classRules := by decide +kernel
  refine ⟨verify_quotedMap, member, ?_⟩
  obtain ⟨-, between, -⟩ := stretches_listed verify_quotedMap member
  exact between ⟨some ' ', "hover:bg-nx-raised", none⟩ (by decide +kernel) (by decide +kernel) rfl
    "bg-nx-raised" ⟨by decide +kernel, "hover:", by decide +kernel, by decide +kernel⟩
    (isTokenUtility_iff.mp (by decide +kernel))

/-- A token utility between quotes is a class token, but not listed. -/
theorem not_listed_of_quotes :
    ¬ ∀ (map : RenameMap) (detector : ResidualDetector) (rule : Rule),
      map.verify detector = .ok () → rule ∈ map.classRules →
      ∀ s ∈ stretches none rule.2 none, ∀ utility, IsUtilityOf utility s.content →
        ShowsToken utility → s.content ∈ map.canonicalClasses := by
  intro all
  -- The quotes part class tokens but no words, and the word around them shows no token.
  have listed := all quotedMap _
    ("badge", "badge-$\x7bon ? \x27bg-nx-unlisted\x27 : \x27\x27\x7d") verify_quotedMap
    (by decide +kernel) ⟨some '\x27', "bg-nx-unlisted", some '\x27'⟩ (by decide +kernel)
    "bg-nx-unlisted" ⟨by decide +kernel, [], rfl, rfl⟩ (isTokenUtility_iff.mp (by decide +kernel))
  exact absurd listed (by decide +kernel)

end RenameMap

end TokenGuard
