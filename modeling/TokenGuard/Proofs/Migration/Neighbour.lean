import TokenGuard.Migration
import TokenGuard.Proofs.Residual.Detection
import TokenGuard.Proofs.Text.Foreign

/-! What stands beside a replaced class is in no key, so a key can only arise inside a target. -/

namespace TokenGuard

open Text

variable {c : Char} {key text : Text} {opens closes : Neighbour} {rule : Rule}

/-- The marks that may stand beside a class, and the dot that makes it a selector. -/
def delimiterMarks : List Char :=
  ['"', '\x27', '\x60', '\x7b', '\x7d', '$', '.', ',', ':', '#', '[', ']', '>', '+', '~', ')']

/-- A blank or a mark that may stand beside a class. -/
def isDelimiter (c : Char) : Bool := isBlank c || delimiterMarks.contains c

/-- Whether a name has no delimiter can be found out by looking at its characters. -/
theorem plain_of_all (none : key.all (!isDelimiter ·) = true) : ∀ c ∈ key, isDelimiter c = false :=
  fun c member => by simpa using List.all_eq_true.mp none c member

/-- What opens a class token is a delimiter. -/
theorem isDelimiter_of_opensClass (opened : opensClass c = true) : isDelimiter c = true := by
  -- Each character that opens a token is a mark of its own or a blank.
  simp only [opensClass, isQuote, Bool.or_eq_true, decide_eq_true_eq] at opened
  rcases opened with ((((rfl | rfl) | rfl) | rfl) | rfl) | blank
  case inr => simp [isDelimiter, blank]
  all_goals rfl

/-- What closes a class token is a delimiter. -/
theorem isDelimiter_of_closesClass (closed : closesClass c = true) : isDelimiter c = true := by
  -- The same is true of those that close one.
  simp only [closesClass, isQuote, Bool.or_eq_true, decide_eq_true_eq] at closed
  rcases closed with ((((rfl | rfl) | rfl) | rfl) | rfl) | blank
  case inr => simp [isDelimiter, blank]
  all_goals rfl

/-- What closes a class in a selector is a delimiter. -/
theorem isDelimiter_of_closesSelector (closed : closesSelector c = true) :
    isDelimiter c = true := by
  simp only [closesSelector, Bool.or_eq_true] at closed
  rcases closed with blank | mark
  · simp [isDelimiter, blank]
  · -- Each of the marks is one of the delimiters.
    have known : ",\x7b:#[]>+~)".toList.all isDelimiter = true := by decide +kernel
    exact List.all_eq_true.mp known c (by simpa using mark)

/-- No delimiter is a character of a token. -/
theorem isTokenCharacter_of_isDelimiter (delimiter : isDelimiter c = true) :
    isTokenCharacter c = false := by
  rcases Bool.or_eq_true_iff.mp delimiter with blank | mark
  · exact isTokenCharacter_of_isBlank blank
  · -- The marks are looked at one by one.
    have known : delimiterMarks.all (!isTokenCharacter ·) = true := by decide
    simpa using List.all_eq_true.mp known c (by simpa using mark)

/-- No delimiter is a character of a word. -/
theorem isAsciiWord_of_isDelimiter (delimiter : isDelimiter c = true) :
    isAsciiWord c = false := by
  rcases Bool.or_eq_true_iff.mp delimiter with blank | mark
  · exact isAsciiWord_of_isBlank blank
  · -- The marks are looked at one by one.
    have known : delimiterMarks.all (!isAsciiWord ·) = true := by decide
    simpa using List.all_eq_true.mp known c (by simpa using mark)

/-- Whether a name may stand twice in a row, either one being between acceptable neighbours. -/
def Rule.abuts (rule : Rule) : Bool :=
  besideCharacter closesClass rule.1.head? && besideCharacter opensClass rule.1.getLast?

/-- A key never stands inside a target, neither between neighbours that it finds there nor beside
a delimiter that precedes the target. -/
def FreshIn (key : Text) (opens closes : Neighbour) (target : Text) : Prop :=
  ∀ front back prior next, isDelimiter prior = true → target = front ++ key ++ back →
    opens (lastOr (some prior) front) = true → closes (back.head?.or next) = false

/-- A key without delimiters is foreign to a rule for class tokens that keeps it out of its target
and whose name does not stand twice in a row. -/
theorem foreign_onTokens (filled : key ≠ []) (plain : ∀ c ∈ key, isDelimiter c = false)
    (named : rule.1 ≠ []) (apart : rule.abuts = false) (fresh : FreshIn key opens closes rule.2) :
    Foreign key opens closes rule.1 rule.2
      (besideCharacter opensClass) (besideCharacter closesClass) where
  filled := filled
  replaces := named
  closed c member := Bool.eq_false_iff.mpr fun closed => by
    simpa [plain c member] using isDelimiter_of_closesClass closed
  unbroken := .inl fun c member => Bool.eq_false_iff.mpr fun opened => by
    simpa [plain c member] using isDelimiter_of_opensClass opened
  apart opened := by simpa [Rule.abuts, opened] using apart
  fresh front back prior next opened _ same isOpen := by
    -- The target takes the place of a name that a delimiter precedes.
    cases prior with
    | none => simp [besideCharacter] at opened
    | some prior => exact fresh front back prior next (isDelimiter_of_opensClass opened) same isOpen

/-- A key without delimiters is foreign to a rule for selectors that keeps it out of its target. -/
theorem foreign_onSelectors (filled : key ≠ []) (plain : ∀ c ∈ key, isDelimiter c = false)
    (fresh : FreshIn key opens closes rule.2) :
    Foreign key opens closes ('.' :: rule.1) ('.' :: rule.2)
      (fun _ => true) (besideCharacter closesSelector) := by
  -- Since the dot is kept, a key without one reaches neither across it nor behind it.
  have noDot : '.' ∉ key := fun member => absurd (plain '.' member) (by decide)
  exact {
    filled := filled
    replaces := by simp
    closed := fun c member => Bool.eq_false_iff.mpr fun closed => by
      simpa [plain c member] using isDelimiter_of_closesSelector closed
    unbroken := .inr ⟨'.', rfl, rfl, fun member => noDot (List.mem_of_mem_tail member)⟩
    apart := fun _ => rfl
    fresh := by
      intro front back prior next _ _ same isOpen
      cases front with
      | nil =>
        -- The key would start with the dot.
        obtain ⟨d, key, rfl⟩ := List.exists_cons_of_ne_nil filled
        exact absurd (List.cons.inj same).1 fun isDot => noDot (isDot ▸ List.mem_cons_self)
      | cons d front =>
        -- Behind the dot it stands in the target, where the dot is what precedes it.
        obtain ⟨rfl, sameTarget⟩ := List.cons.inj same
        exact fresh front back '.' next rfl sameTarget (lastOr_cons prior '.' front ▸ isOpen) }

/-- A rule for class tokens to which a key is foreign does not make it stand anywhere. -/
theorem standsIn_of_onTokens (filled : key ≠ []) (plain : ∀ c ∈ key, isDelimiter c = false)
    (apart : rule.abuts = false) (fresh : FreshIn key opens closes rule.2)
    (stands : StandsIn key opens closes (rule.onTokens text).text) :
    StandsIn key opens closes text := by
  -- A rule without a name replaces nothing.
  by_cases named : rule.1 = []
  · simpa [Rule.onTokens, replaceBounded, named] using stands
  · exact standsIn_of_replaceBounded (foreign_onTokens filled plain named apart fresh) stands

/-- A rule for selectors that keeps a key out of its target does not make it stand anywhere. -/
theorem standsIn_of_onSelectors (filled : key ≠ []) (plain : ∀ c ∈ key, isDelimiter c = false)
    (fresh : FreshIn key opens closes rule.2)
    (stands : StandsIn key opens closes (rule.onSelectors text).text) :
    StandsIn key opens closes text :=
  standsIn_of_replaceBounded (foreign_onSelectors filled plain fresh) stands

/-- No step of some rules for class tokens and some for selectors makes a key stand anywhere, if
all of them keep it out of their targets. -/
theorem standsIn_of_step {tokens selectors : List Rule} {step : Text → Replaced}
    (filled : key ≠ []) (plain : ∀ c ∈ key, isDelimiter c = false)
    (apart : ∀ rule ∈ tokens, rule.abuts = false)
    (fresh : ∀ rule ∈ tokens ++ selectors, FreshIn key opens closes rule.2)
    (member : step ∈ tokens.map Rule.onTokens ++ selectors.map Rule.onSelectors)
    (stands : StandsIn key opens closes (step text).text) : StandsIn key opens closes text := by
  rcases List.mem_append.mp member with ofTokens | ofSelectors
  · obtain ⟨rule, used, rfl⟩ := List.mem_map.mp ofTokens
    exact standsIn_of_onTokens filled plain (apart rule used)
      (fresh rule (List.mem_append_left _ used)) stands
  · obtain ⟨rule, used, rfl⟩ := List.mem_map.mp ofSelectors
    exact standsIn_of_onSelectors filled plain (fresh rule (List.mem_append_right _ used)) stands

end TokenGuard
