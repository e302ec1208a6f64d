import TokenGuard.Proofs.Migration.Exhaustive
import TokenGuard.Proofs.Migration.Stretch
import TokenGuard.Proofs.OrderedMap.Lookup

/-! Rules for class tokens that are applied one after the other act like one substitution of all
tokens at once. -/

namespace TokenGuard

open Text

variable {map : RenameMap} {palette : RawPalette} {migration : Migration} {rule : Rule}
  {rules : List Rule} {name text : Text} {before after previous : Option Char}
  {replaced : Replaced} {s : Stretch}

namespace Stretch

/-- Whether a stretch stands where a class token may stand. -/
def isToken (s : Stretch) : Bool :=
  besideCharacter opensClass s.before && besideCharacter closesClass s.after

/-- The target of the rule for a stretch that is a class token. -/
def target? (rules : List Rule) (s : Stretch) : Option Text :=
  if s.isToken then rules.lookup s.content else none

/-- What a stretch becomes. -/
def substituted (rules : List Rule) (s : Stretch) : Text := (s.target? rules).getD s.content

end Stretch

/-- Stretches with the tokens among them substituted, and the number of these tokens. -/
def substituteAll (rules : List Rule) (list : List Stretch) : Replaced :=
  ⟨spell (Stretch.substituted rules) list, list.countP fun s => (s.target? rules).isSome⟩

/-- Substitute all class tokens of a text that are names of rules at once. -/
def substitute (rules : List Rule) (text : Text) : Replaced :=
  substituteAll rules (stretches none text none)

/-- Rules that do not get in each other's way. -/
structure Independent (rules : List Rule) : Prop where
  /-- There is one rule for a name. -/
  distinct : (rules.map Prod.fst).Nodup
  /-- Names have characters. -/
  filled : ∀ rule ∈ rules, rule.1 ≠ []
  /-- Names have no class delimiters. -/
  plain : ∀ rule ∈ rules, Undelimited rule.1
  /-- No name is a class token of a target in quotes. -/
  fresh : ∀ rule ∈ rules, ∀ other ∈ rules, ¬ StandsAsToken other.1 ('"' :: rule.2 ++ ['"'])

namespace Stretch

/-- A stretch stands as a token only beside an opening and a closing character. -/
theorem isToken_iff : s.isToken = true ↔ besideCharacter opensClass s.before = true ∧
    besideCharacter closesClass s.after = true := Bool.and_eq_true_iff

/-- A target is that of a rule for the stretch, which stands as a token. -/
theorem of_target?_eq_some {target : Text} (found : s.target? rules = some target) :
    s.isToken = true ∧ (s.content, target) ∈ rules := by
  unfold target? at found
  split at found
  · next token =>
    obtain ⟨front, back, rfl, -⟩ := List.lookup_eq_some_iff.mp found
    exact ⟨token, by simp⟩
  · simp at found

/-- The first rule is looked at first. -/
theorem target?_cons : s.target? (rule :: rules) = (s.target? [rule]).or (s.target? rules) := by
  -- The names are looked up in order.
  obtain ⟨name, target⟩ := rule
  unfold target?
  cases s.isToken
  · rfl
  · cases same : s.content == name <;> simp [List.lookup_cons, same]

/-- A rule is for no stretch but a token with its name. -/
theorem target?_eq_none (other : s.isToken = true → s.content ≠ rule.1) :
    s.target? [rule] = none := by
  cases found : s.target? [rule] with
  | none => rfl
  | some target =>
    obtain ⟨token, member⟩ := of_target?_eq_some found
    exact absurd (congrArg Prod.fst (List.mem_singleton.mp member)) (other token)

/-- A rule is for the token with its name. -/
theorem target?_eq_some (token : s.isToken = true) (same : s.content = rule.1) :
    s.target? [rule] = some rule.2 := by
  obtain ⟨name, target⟩ := rule
  simp [target?, token, same]

/-- What is no token according to the rules is kept. -/
theorem substituted_of_none (other : s.target? rules = none) : s.substituted rules = s.content := by
  simp [substituted, other]

end Stretch

/-- A stretch that is no token is kept, and the others are substituted. -/
theorem substituteAll_cons_of_none {list : List Stretch} (other : s.target? rules = none) :
    substituteAll rules (s :: list) =
      ⟨s.content ++ s.after.toList ++ (substituteAll rules list).text,
        (substituteAll rules list).count⟩ := by
  simp [substituteAll, spell, Stretch.substituted, other]

/-- A stretch that is a token is replaced and counted. -/
theorem substituteAll_cons_of_some {list : List Stretch} {target : Text}
    (found : s.target? rules = some target) :
    substituteAll rules (s :: list) =
      ⟨target ++ s.after.toList ++ (substituteAll rules list).text,
        (substituteAll rules list).count + 1⟩ := by
  simp [substituteAll, spell, Stretch.substituted, found]

/-- Two lists of stretches are substituted one behind the other. -/
theorem substituteAll_append (rules : List Rule) (left right : List Stretch) :
    substituteAll rules (left ++ right) =
      ⟨(substituteAll rules left).text ++ (substituteAll rules right).text,
        (substituteAll rules left).count + (substituteAll rules right).count⟩ := by
  simp [substituteAll, spell]

/-- The stretches of a text without tokens are kept. -/
theorem substituteAll_of_none
    (nothing : ∀ s ∈ stretches before text after, s.target? rules = none) :
    substituteAll rules (stretches before text after) = ⟨text ++ after.toList, 0⟩ := by
  -- Spelling the stretches with their own contents gives the text.
  have spelled : spell Stretch.content (stretches before text after) = text ++ after.toList :=
    spell_content
  rw [← spelled, substituteAll, Replaced.mk.injEq]
  constructor
  · exact List.flatMap_congr fun s member => by rw [Stretch.substituted_of_none (nothing s member)]
  · simpa using nothing

/-- A walk that replaces a name where it stands as a token substitutes it. -/
theorem Text.Rewritten.eq_substituteAll {target : Text} (filled : name ≠ [])
    (plain : Undelimited name)
    (walk : Rewritten name target (besideCharacter opensClass) (besideCharacter closesClass)
      previous text replaced) :
    replaced = substituteAll [(name, target)] (stretches previous text none) := by
  -- No character but the first one of a stretch can be where a token starts.
  induction walk with
  | done =>
    rw [stretches, substituteAll_cons_of_none]
    · rfl
    · exact Stretch.target?_eq_none fun _ => filled.symm
  | @keep previous c rest replaced other tail ih =>
    subst ih
    by_cases delimiter : isClassDelimiter c = true
    · -- A delimiter ends an empty stretch, which has no name.
      rw [stretches, if_pos delimiter, substituteAll_cons_of_none]
      · rfl
      · exact Stretch.target?_eq_none fun _ => filled.symm
    · obtain ⟨run, behind, others, rfl, first⟩ := exists_stretches_eq_cons rest none
      rw [stretches, if_neg delimiter, first, first, List.modifyHead_cons,
        substituteAll_cons_of_none, substituteAll_cons_of_none]
      · rfl
      · -- If the longer stretch were the token, the name would start here.
        refine Stretch.target?_eq_none fun token same => other ?_
        obtain ⟨opened, closed⟩ := Stretch.isToken_iff.mp token
        exact ⟨opened, behind, by simpa [Stretch.extend] using congrArg (· ++ behind) same,
          by simpa [Stretch.extend] using closed⟩
      · -- The character before the shorter one does not open it.
        refine Stretch.target?_eq_none fun token _ => delimiter ?_
        have opened : opensClass c = true := (Stretch.isToken_iff.mp token).1
        simp [isClassDelimiter, opened]
  | @swap previous rest replaced opened closed tail ih =>
    subst ih
    cases rest with
    | nil => simp [besideCharacter] at closed
    | cons d rest =>
      -- A token is a whole stretch, which the closing character ends.
      have closed : closesClass d = true := closed
      have delimiter : isClassDelimiter d = true := by simp [isClassDelimiter, closed]
      have found : Stretch.target? [(name, target)] ⟨previous, name, some d⟩ = some target :=
        Stretch.target?_eq_some (Stretch.isToken_iff.mpr ⟨opened, closed⟩) rfl
      rw [stretches_append_cons delimiter, stretches_of_undelimited plain, stretches,
        if_pos delimiter, List.singleton_append, substituteAll_cons_of_none,
        substituteAll_cons_of_some found]
      · simp
      · exact Stretch.target?_eq_none fun _ => filled.symm

/-- Applying a rule for class tokens substitutes the tokens with its name. -/
theorem Rule.onTokens_eq_substitute (filled : rule.1 ≠ []) (plain : Undelimited rule.1)
    (text : Text) : rule.onTokens text = substitute [rule] text :=
  (rewritten_replaceBounded filled rule.2 text _ _).eq_substituteAll filled plain

/-- A name without delimiters is a class token exactly where it is a whole stretch. -/
theorem standsAsToken_iff (plain : Undelimited name) : StandsAsToken name text ↔
    ∃ s ∈ stretches none text none, s.isToken = true ∧ s.content = name := by
  constructor
  · rintro ⟨front, rest, rfl, opened, back, rfl, closed⟩
    refine ⟨⟨lastOr none front, name, back.head?⟩, ?_,
      Stretch.isToken_iff.mpr ⟨opened, closed⟩, rfl⟩
    -- The characters beside the name are delimiters, so it cannot be made longer.
    refine mem_stretches_iff.mpr ⟨plain, front, back, by simp, ?_, ?_, rfl, by simp⟩
    · intro c last
      have opened : opensClass c = true := by
        simpa [lastOr, Option.mem_def.mp last, besideCharacter] using opened
      simp [isClassDelimiter, opened]
    · intro c first
      have closed : closesClass c = true := by
        simpa [Option.mem_def.mp first, besideCharacter] using closed
      simp [isClassDelimiter, closed]
  · -- A stretch that is a token stands beside what opens and closes it.
    rintro ⟨s, member, token, rfl⟩
    obtain ⟨-, front, back, rfl, -, -, prior, next⟩ := mem_stretches_iff.mp member
    obtain ⟨opened, closed⟩ := Stretch.isToken_iff.mp token
    exact ⟨front, s.content ++ back, by simp, prior ▸ opened, back, rfl,
      by simpa [next] using closed⟩

/-- Between delimiters no stretch of a target is a token for which there is a rule. -/
theorem Stretch.target?_of_fresh {target : Text}
    (fresh : ∀ other ∈ rules, ¬ StandsAsToken other.1 ('"' :: target ++ ['"']))
    (member : s ∈ stretches before target after) : s.target? rules = none := by
  cases found : s.target? rules with
  | none => rfl
  | some new =>
    obtain ⟨token, known⟩ := of_target?_eq_some found
    obtain ⟨opened, closed⟩ := isToken_iff.mp token
    obtain ⟨-, front, back, rfl, -, -, prior, next⟩ := mem_stretches_iff.mp member
    -- The token would stand in the quoted target too, as a quote both opens and closes it.
    refine absurd ?_ (fresh _ known)
    refine ⟨'"' :: front, s.content ++ (back ++ ['"']), by simp, ?_, back ++ ['"'], rfl, ?_⟩
    · rw [lastOr_cons]
      cases last : front.getLast? with
      | none => simp [lastOr, last, besideCharacter, opensClass, isQuote]
      | some c => simpa [prior, lastOr, last] using opened
    · cases first : back.head? with
      | none => simp [first, besideCharacter, closesClass, isQuote]
      | some c => simpa [next, first] using closed

/-- A rule that is looked at first may as well be applied first, if its target has no token for
which there is another one. -/
theorem substituteAll_cons {list : List Stretch} (clean : ∀ s ∈ list, Undelimited s.content)
    (fresh : ∀ other ∈ rules, ¬ StandsAsToken other.1 ('"' :: rule.2 ++ ['"'])) :
    substituteAll (rule :: rules) list =
      let parts := list.flatMap fun s => stretches s.before (s.substituted [rule]) s.after
      ⟨(substituteAll rules parts).text,
        (substituteAll [rule] list).count + (substituteAll rules parts).count⟩ := by
  -- Stretch by stretch: the target of the first rule has no further tokens.
  induction list with
  | nil => rfl
  | cons s list ih =>
    obtain ⟨plain, clean⟩ := List.forall_mem_cons.mp clean
    have rest := ih clean
    simp only at rest ⊢
    rw [List.flatMap_cons, substituteAll_append]
    cases found : s.target? [rule] with
    | some target =>
      -- The target stays as it is.
      obtain ⟨-, member⟩ := Stretch.of_target?_eq_some found
      obtain rfl : target = rule.2 := congrArg Prod.snd (List.mem_singleton.mp member)
      have whole : s.target? (rule :: rules) = some rule.2 := by
        rw [Stretch.target?_cons, found, Option.some_or]
      have kept : substituteAll rules (stretches s.before rule.2 s.after) =
          ⟨rule.2 ++ s.after.toList, 0⟩ :=
        substituteAll_of_none fun part member => Stretch.target?_of_fresh fresh member
      rw [substituteAll_cons_of_some whole, substituteAll_cons_of_some found, rest]
      simp [Stretch.substituted, found, kept, Nat.add_right_comm]
    | none =>
      -- The stretch is left to the other rules.
      have others : s.target? (rule :: rules) = s.target? rules := by
        rw [Stretch.target?_cons, found, Option.none_or]
      have same : stretches s.before (s.substituted [rule]) s.after = [s] := by
        rw [Stretch.substituted_of_none found, stretches_of_undelimited plain]
      rw [same, substituteAll_cons_of_none found]
      cases ofRest : s.target? rules with
      | none =>
        rw [substituteAll_cons_of_none (others.trans ofRest), substituteAll_cons_of_none ofRest,
          rest]
        simp [substituteAll, spell]
      | some new =>
        rw [substituteAll_cons_of_some (others.trans ofRest), substituteAll_cons_of_some ofRest,
          rest]
        simp [substituteAll, spell]
        omega

/-- Substituting the tokens of one name and then those of other names is substituting all of them
at once, if the target of the one name has none of the others. -/
theorem substitute_cons
    (fresh : ∀ other ∈ rules, ¬ StandsAsToken other.1 ('"' :: rule.2 ++ ['"'])) (text : Text) :
    substitute (rule :: rules) text =
      ⟨(substitute rules (substitute [rule] text).text).text,
        (substitute [rule] text).count +
          (substitute rules (substitute [rule] text).text).count⟩ := by
  have clean : ∀ s ∈ stretches none text none, Undelimited s.content :=
    fun s member => (mem_stretches_iff.mp member).1
  -- The stretches of the text that is left are parts of those of the text before.
  have parts : stretches none (substitute [rule] text).text none =
      (stretches none text none).flatMap fun s =>
        stretches s.before (s.substituted [rule]) s.after := stretches_spell _
  have whole := substituteAll_cons clean fresh
  simp only [← parts] at whole
  exact whole

/-- The order of rules for different names has no influence on what is substituted. -/
theorem substitute_perm {order : List Rule} (distinct : (order.map Prod.fst).Nodup)
    (same : order.Perm rules) (text : Text) : substitute order text = substitute rules text := by
  -- Names are looked up in the rules, where each of them stands once.
  have target : Stretch.target? order = Stretch.target? rules := by
    funext s
    simp only [Stretch.target?, lookup_perm distinct same]
  have edit : Stretch.substituted order = Stretch.substituted rules := by
    funext s
    simp only [Stretch.substituted, target]
  simp only [substitute, substituteAll, edit, target]

/-- Rules that do not get in each other's way do not do so in another order. -/
theorem Independent.perm {order : List Rule} (independent : Independent rules)
    (same : order.Perm rules) : Independent order where
  distinct := (same.map Prod.fst).nodup_iff.mpr independent.distinct
  filled rule member := independent.filled rule (same.subset member)
  plain rule member := independent.plain rule (same.subset member)
  fresh rule member other member' :=
    independent.fresh rule (same.subset member) other (same.subset member')

/-- Rules behind the first one do not get in each other's way either. -/
theorem Independent.tail (independent : Independent (rule :: rules)) : Independent rules where
  distinct := (List.nodup_cons.mp independent.distinct).2
  filled other member := independent.filled other (List.mem_cons_of_mem rule member)
  plain other member := independent.plain other (List.mem_cons_of_mem rule member)
  fresh other member another member' := independent.fresh other (List.mem_cons_of_mem rule member)
    another (List.mem_cons_of_mem rule member')

/-- Applying independent rules in order is substituting all tokens at once. -/
theorem Independent.applyAll (independent : Independent rules) (text : Text) :
    applyAll (rules.map Rule.onTokens) text = substitute rules text := by
  -- The first rule substitutes its own tokens, and the others those of what it left.
  induction rules generalizing text with
  | nil =>
    -- Without rules every stretch is kept.
    have kept : substitute [] text = ⟨text ++ [], 0⟩ :=
      substituteAll_of_none fun s _ => by simp [Stretch.target?]
    rw [kept, List.append_nil]
    rfl
  | cons rule rules ih =>
    have first : rule.onTokens text = substitute [rule] text :=
      rule.onTokens_eq_substitute (independent.filled rule (by simp))
        (independent.plain rule (by simp)) text
    have fresh : ∀ other ∈ rules, ¬ StandsAsToken other.1 ('"' :: rule.2 ++ ['"']) :=
      fun other member => independent.fresh rule (by simp) other (List.mem_cons_of_mem rule member)
    rw [List.map_cons, applyAll_cons, ih independent.tail, substitute_cons fresh, first]

/-- The rules for class tokens are those of the map in another order. -/
theorem Migration.tokenRules_perm (accepted : ofMap map palette = .ok migration) :
    migration.tokenRules.Perm (map.classes.entries ++ map.rawValues.entries) := by
  obtain ⟨-, -, classes, rawValues, -⟩ := of_ofMap accepted
  rw [tokenRules, classes, rawValues]
  exact (List.mergeSort_perm _ _).append (List.mergeSort_perm _ _)

/-- Applying independent rules for class tokens one after the other, in any order and so in that of
a migration, substitutes all tokens of a text at once. -/
theorem applyAll_eq_substitute (independent : Independent rules) (text : Text) :
    (∀ order : List Rule, order.Perm rules →
      applyAll (order.map Rule.onTokens) text = substitute rules text) ∧
    ∀ map palette migration, Migration.ofMap map palette = .ok migration →
      map.classes.entries ++ map.rawValues.entries = rules →
      applyAll (migration.tokenRules.map Rule.onTokens) text = substitute rules text := by
  -- A migration uses the rules in some order, and any order comes to the same.
  have anyOrder : ∀ order : List Rule, order.Perm rules →
      applyAll (order.map Rule.onTokens) text = substitute rules text := by
    intro order same
    have ofOrder := independent.perm same
    rw [ofOrder.applyAll, substitute_perm ofOrder.distinct same]
  refine ⟨anyOrder, ?_⟩
  rintro map palette migration accepted rfl
  exact anyOrder _ (Migration.tokenRules_perm accepted)

/-- Rules with a name that starts another one, and with targets of no class and of several. -/
def crowdedRules : List Rule :=
  [("na-p-4".toList, "".toList), ("na-p-4x".toList, "p-4".toList),
    ("na-card".toList, "card card-lg".toList), ("bg-red-500".toList, "bg-danger".toList)]

/-- A rename map with these rules. -/
def crowdedMap : RenameMap where
  legacyLead := "na-"
  classes := ⟨crowdedRules.take 3, by decide⟩
  rawValues := ⟨crowdedRules.drop 3, by decide⟩
  imports := .empty
  contextual := []
  canonicalClasses := []

/-- A text with tokens that share a delimiter, and names that stand for no token. -/
def crowdedText : Text :=
  "\x22na-p-4 na-p-4x na-card\x22 \x7bna-p-4$bg-red-500\x7d .na-card\x7b na-p-4"

/-- The names of the crowded rules have no class delimiters. -/
theorem undelimited_crowded : ∀ rule ∈ crowdedRules, Undelimited rule.1 := by decide

/-- The crowded rules do not get in each other's way. -/
theorem independent_crowded : Independent crowdedRules where
  distinct := by decide
  filled := by decide
  plain := undelimited_crowded
  fresh rule member other member' := by
    -- The classes of the targets are none of the names.
    have nowhere : ∀ rule ∈ crowdedRules, ∀ s ∈ stretches none ('"' :: rule.2 ++ ['"']) none,
        s.content ∉ crowdedRules.map Prod.fst := by decide +kernel
    rw [standsAsToken_iff (undelimited_crowded other member')]
    rintro ⟨s, inTarget, -, isName⟩
    exact nowhere rule member s inTarget (isName ▸ List.mem_map_of_mem member')

/-- The migration of the crowded map replaces the five tokens of the text. -/
theorem applyAll_eq_substitute_crowded : Independent crowdedRules ∧
    ∃ migration, Migration.ofMap crowdedMap Migration.samplePalette = .ok migration ∧
      applyAll (migration.tokenRules.map Rule.onTokens) crowdedText =
        ⟨"\x22 p-4 card card-lg\x22 \x7b$bg-danger\x7d .na-card\x7b na-p-4", 5⟩ := by
  refine ⟨independent_crowded, _, rfl, ?_⟩
  -- The text is evaluated once for all rules.
  have atOnce := (applyAll_eq_substitute independent_crowded crowdedText).2 crowdedMap
    Migration.samplePalette _ rfl rfl
  rw [atOnce]
  decide +kernel

end TokenGuard
