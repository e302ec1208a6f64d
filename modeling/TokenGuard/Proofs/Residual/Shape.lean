import Mathlib.Data.List.TakeWhile
import TokenGuard.Proofs.Residual.Finder

/-! What residual tokens look like: a token is found at the start of a text exactly if the text
starts with one that has the right shape. -/

namespace TokenGuard

variable {isNext : Text → Prop} {words : List Text} {token : Text}

/-- A legacy token is its lead and at least one tail character behind it. -/
def IsLegacyToken (lead token : Text) : Prop :=
  ∃ tail : Text, tail ≠ [] ∧ (∀ c ∈ tail, isLegacyTail c = true) ∧ token = lead ++ tail

/-- A number is at least one digit. -/
def IsNumber (text : Text) : Prop := text ≠ [] ∧ ∀ c ∈ text, isDecimalDigit c = true

/-- A shade is a number, or two of them with a slash between. -/
def IsShade (text : Text) : Prop :=
  IsNumber text ∨ ∃ number opacity, IsNumber number ∧ IsNumber opacity ∧
    text = number ++ '/' :: opacity

/-- One of several words, a hyphen, and what comes behind it. -/
def WordThen (words : List Text) (isNext : Text → Prop) (token : Text) : Prop :=
  ∃ word ∈ words, ∃ next, isNext next ∧ token = word ++ ['-'] ++ next

/-- A raw color token is a utility, a color name and a shade, with hyphens between them. -/
def IsRawToken (palette : RawPalette) : Text → Prop :=
  WordThen palette.utilities (WordThen palette.names IsShade)

/-- No raw color token can be built from an empty palette. -/
theorem not_isRawToken_of_isEmpty {palette : RawPalette} (none : palette.isEmpty = true)
    (token : Text) : ¬ IsRawToken palette token := by
  rintro ⟨utility, first, _, ⟨name, second, -⟩, -⟩
  simp only [RawPalette.isEmpty, Bool.or_eq_true, List.isEmpty_iff] at none
  rcases none with none | none
  · simp [none] at first
  · simp [none] at second

namespace Finder

variable {token? next? : Finder}

/-- Only tokens of a kind are found, and each of them is where nothing follows it. -/
structure Finds (token? : Finder) (isToken : Text → Prop) : Prop where
  /-- What is found is of the kind. -/
  only : ∀ {text token : Text}, token? text = some token → isToken token
  /-- At the start of a token one of the kind is found. -/
  every : ∀ {token : Text}, isToken token → (token? token).isSome = true

/-- A token that is found has a character. -/
theorem Finds.ne_nil {isToken : Text → Prop} (finds : Finds token? isToken) (sound : Sound token?)
    (shaped : isToken token) : token ≠ [] := by
  rintro rfl
  have found := finds.every shaped
  simp [sound.nil] at found

/-- A legacy token is found by its shape. -/
theorem finds_legacy (lead : Text) : Finds (legacyToken? lead) (IsLegacyToken lead) where
  only found := by
    obtain ⟨rest, -, filled, rfl⟩ := legacyToken_eq_some_iff.mp found
    exact ⟨_, filled, fun _ => List.mem_takeWhile_imp, rfl⟩
  every := by
    rintro _ ⟨tail, filled, each, rfl⟩
    -- Nothing follows the tail, so the run of tail characters is all of it.
    have all : tail.takeWhile isLegacyTail = tail := List.takeWhile_eq_self_iff.mpr each
    exact Option.isSome_iff_exists.mpr
      ⟨_, legacyToken_eq_some_iff.mpr ⟨tail, rfl, by rwa [all], rfl⟩⟩

/-- An opacity is empty, or a slash and a number. -/
theorem opacity_cases (text : Text) :
    opacity text = [] ∨ ∃ number, IsNumber number ∧ opacity text = '/' :: number := by
  -- Behind a slash without a digit there is no number, so the slash is not taken either.
  unfold opacity
  split
  · next rest =>
    dsimp only
    split
    · exact .inl rfl
    · next filled =>
      exact .inr ⟨_, ⟨by simpa using filled, fun _ => List.mem_takeWhile_imp⟩, rfl⟩
  · exact .inl rfl

/-- A shade is found by its shape. -/
theorem finds_shade : Finds shade? IsShade where
  only {text token} found := by
    unfold shade? at found
    dsimp only at found
    split at found
    · simp at found
    · next filled =>
      obtain rfl := Option.some.inj found
      -- What is found is the number in front with the opacity behind it.
      have number : IsNumber (text.takeWhile isDecimalDigit) :=
        ⟨by simpa using filled, fun _ => List.mem_takeWhile_imp⟩
      rcases opacity_cases (text.dropWhile isDecimalDigit) with none | ⟨opacity, digits, some⟩
      · exact .inl (by simpa [none] using number)
      · exact .inr ⟨_, opacity, number, digits, by rw [some]⟩
  every {token} shade := by
    -- Either way a digit comes first.
    have starts : ∃ c rest, token = c :: rest ∧ isDecimalDigit c = true := by
      rcases shade with ⟨filled, each⟩ | ⟨number, opacity, ⟨filled, each⟩, -, rfl⟩
      · obtain ⟨c, rest, rfl⟩ := List.exists_cons_of_ne_nil filled
        exact ⟨c, rest, rfl, each c (by simp)⟩
      · obtain ⟨c, rest, rfl⟩ := List.exists_cons_of_ne_nil filled
        exact ⟨c, _, rfl, each c (by simp)⟩
    obtain ⟨c, rest, rfl, digit⟩ := starts
    simp [shade?, digit]

/-- A word and what comes behind it are found by their shapes. -/
theorem Finds.wordThen (finds : Finds next? isNext) :
    Finds (wordThen? words next?) (WordThen words isNext) where
  only {text token} found := by
    -- The word that comes first among those that lead to a token need not be the longest one.
    obtain ⟨word, member, found⟩ := List.exists_of_findSome?_eq_some found
    simp only [Option.bind_eq_bind, Option.bind_eq_some_iff] at found
    obtain ⟨rest, -, next, behind, same⟩ := found
    exact ⟨word, member, next, finds.only behind, by simpa using same.symm⟩
  every := by
    rintro _ ⟨word, member, next, shaped, rfl⟩
    exact isSome_wordThen_iff.mpr
      ⟨word, member, next, Text.dropPrefix?_eq_some_iff.mpr rfl, finds.every shaped⟩

/-- A raw color token is found by its shape. -/
theorem finds_raw (palette : RawPalette) : Finds (rawToken? palette) (IsRawToken palette) :=
  finds_shade.wordThen.wordThen

end Finder

end TokenGuard
