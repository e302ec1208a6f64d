import TokenGuard.Proofs.Text.Cut
import TokenGuard.Residual

/-! What finds a token at the start of a text looks no farther than the token may reach. -/

namespace TokenGuard

namespace Text

variable {part front back : Text} {c : Char} {inside : Char → Bool}

/-- A character that is not in a part stops the search for it. -/
theorem dropPrefix?_append_cons (other : c ∉ part) (front back : Text) :
    dropPrefix? part (front ++ c :: back) = (dropPrefix? part front).map (· ++ c :: back) := by
  -- The comparison fails at the character at the latest.
  induction part generalizing front with
  | nil => simp [dropPrefix?]
  | cons p part ih =>
    obtain ⟨different, other⟩ : c ≠ p ∧ c ∉ part := by simpa using other
    cases front with
    | nil => simp [dropPrefix?, different.symm]
    | cons d front =>
      by_cases same : p = d
      · simp [dropPrefix?, same, ih other]
      · simp [dropPrefix?, same]

/-- A part at the start of a text is at the start of every longer one. -/
theorem dropPrefix?_append (found : dropPrefix? part front = some back) (more : Text) :
    dropPrefix? part (front ++ more) = some (back ++ more) := by
  rw [dropPrefix?_eq_some_iff] at found ⊢
  simp [found]

/-- A character outside a class ends the characters of it. -/
theorem takeWhile_append_cons (outside : inside c = false) (front back : Text) :
    (front ++ c :: back).takeWhile inside = front.takeWhile inside := by
  induction front with
  | nil => simp [outside]
  | cons d front ih => simp [List.takeWhile_cons, ih]

/-- What follows the characters of a class goes on to the end of the text. -/
theorem dropWhile_append_cons (outside : inside c = false) (front back : Text) :
    (front ++ c :: back).dropWhile inside = front.dropWhile inside ++ c :: back := by
  induction front with
  | nil => simp [outside]
  | cons d front ih =>
    simp only [List.cons_append, List.dropWhile_cons]
    split <;> simp [ih]

/-- A text that starts with characters of a class still does when more follows. -/
theorem takeWhile_append_ne_nil (filled : front.takeWhile inside ≠ []) (more : Text) :
    (front ++ more).takeWhile inside ≠ [] := by
  cases front with
  | nil => simp at filled
  | cons d front =>
    intro nothing
    simp_all [List.takeWhile_cons]

end Text

/-- What finds the token that a text starts with, if there is one. -/
abbrev Finder := Text → Option Text

namespace Finder

variable {next? : Finder} {c : Char} {words : List Text}

/-- What is found is a token with a character, and the text starts with it. -/
def Sound (token? : Finder) : Prop :=
  ∀ text token, token? text = some token → token ≠ [] ∧ token <+: text

/-- Whatever follows a text, it does not hide a token. -/
def Persistent (token? : Finder) : Prop :=
  ∀ text more, (token? text).isSome → (token? (text ++ more)).isSome

/-- The search for a token does not look beyond a character. -/
def StopsAt (c : Char) (token? : Finder) : Prop :=
  ∀ front back, token? (front ++ c :: back) = token? front

/-- The end of a text starts with no token. -/
theorem Sound.nil {token? : Finder} (sound : Sound token?) : token? [] = none := by
  cases found : token? [] with
  | none => rfl
  | some token =>
    obtain ⟨filled, isPrefix⟩ := sound [] token found
    exact absurd (List.prefix_nil.mp isPrefix) filled

/-- An opacity is where it is read from. -/
theorem opacity_prefix (text : Text) : opacity text <+: text := by
  unfold opacity
  split
  · next rest =>
    dsimp only
    split
    · exact List.nil_prefix
    · exact (List.prefix_cons_inj '/').mpr (List.takeWhile_prefix _)
  · exact List.nil_prefix

/-- The search for an opacity stops at a character that is neither a slash nor a digit. -/
theorem opacity_append_cons (slash : c ≠ '/') (digit : isDecimalDigit c = false)
    (front back : Text) : opacity (front ++ c :: back) = opacity front := by
  -- The character is neither the slash nor one of the digits behind it.
  cases front with
  | nil => simp [opacity, slash]
  | cons d front =>
    by_cases same : d = '/'
    · subst same
      simp [opacity, Text.takeWhile_append_cons digit]
    · simp [opacity, same]

/-- A shade is found where it stands. -/
theorem sound_shade : Sound shade? := by
  intro text token found
  -- There is a token only if there are digits.
  unfold shade? at found
  dsimp only at found
  split at found
  · simp at found
  · next filled =>
    obtain rfl := Option.some.inj found
    refine ⟨by simp_all, ?_⟩
    -- The digits are followed by what the opacity is read from.
    obtain ⟨rest, same⟩ := opacity_prefix (text.dropWhile isDecimalDigit)
    exact ⟨rest, by rw [List.append_assoc, same, List.takeWhile_append_dropWhile]⟩

/-- A text that starts with a shade does so whatever follows. -/
theorem persistent_shade : Persistent shade? := by
  intro text more found
  -- One digit is enough for a shade, whatever the opacity is then.
  have filled : text.takeWhile isDecimalDigit ≠ [] := by
    intro nothing
    simp [shade?, nothing] at found
  simp [shade?, Text.takeWhile_append_ne_nil filled more]

/-- The search for a shade stops at a character that is neither a slash nor a digit. -/
theorem stopsAt_shade (slash : c ≠ '/') (digit : isDecimalDigit c = false) : StopsAt c shade? := by
  intro front back
  simp only [shade?, Text.takeWhile_append_cons digit, Text.dropWhile_append_cons digit,
    opacity_append_cons slash digit]

/-- A word with a hyphen and what follows is found where both stand. -/
theorem Sound.wordThen (sound : Sound next?) : Sound (wordThen? words next?) := by
  intro text token found
  -- One of the words stands at the start, and the next token right behind its hyphen.
  obtain ⟨word, -, found⟩ := List.exists_of_findSome?_eq_some found
  simp only [Option.bind_eq_bind, Option.bind_eq_some_iff] at found
  obtain ⟨rest, start, more, next, same⟩ := found
  obtain rfl : word ++ ['-'] ++ more = token := by simpa using same
  obtain ⟨behind, rfl⟩ := (sound rest more next).2
  exact ⟨by simp, behind, by simp [Text.dropPrefix?_eq_some_iff.mp start]⟩

/-- A word with a hyphen and what follows is found for one of the words. -/
theorem isSome_wordThen_iff {text : Text} :
    (wordThen? words next? text).isSome ↔
      ∃ word ∈ words, ∃ rest, Text.dropPrefix? (word ++ ['-']) text = some rest ∧
        (next? rest).isSome := by
  -- The first of the words with a token is asked for, but whether there is one does not depend on
  -- their order.
  rw [wordThen?, List.findSome?_isSome_iff]
  refine exists_congr fun word => and_congr_right fun _ => ?_
  cases Text.dropPrefix? (word ++ ['-']) text with
  | none => simp
  | some rest => cases found : next? rest <;> simp [found]

/-- What follows a word with a hyphen may go on. -/
theorem Persistent.wordThen (persistent : Persistent next?) :
    Persistent (wordThen? words next?) := by
  intro text more found
  obtain ⟨word, member, rest, start, next⟩ := isSome_wordThen_iff.mp found
  exact isSome_wordThen_iff.mpr
    ⟨word, member, rest ++ more, Text.dropPrefix?_append start more, persistent rest more next⟩

/-- The search for a word and what follows stops at a character that is in none of them. -/
theorem StopsAt.wordThen (stops : StopsAt c next?) (hyphen : c ≠ '-')
    (other : ∀ word ∈ words, c ∉ word) : StopsAt c (wordThen? words next?) := by
  intro front back
  -- Every word is looked for in front of the character only.
  induction words with
  | nil => rfl
  | cons word words ih =>
    have absent : c ∉ word ++ ['-'] := by simp [other word, hyphen]
    have rest := ih fun word member => other word (by simp [member])
    unfold wordThen? at rest ⊢
    rw [List.findSome?_cons, List.findSome?_cons, rest, Text.dropPrefix?_append_cons absent]
    cases Text.dropPrefix? (word ++ ['-']) front with
    | none => rfl
    | some rest => simp [stops rest back]

/-- Behind its lead a legacy token goes on with all tail characters, of which there must be one. -/
theorem legacyToken_of_dropPrefix {lead text rest : Text}
    (start : Text.dropPrefix? lead text = some rest) :
    legacyToken? lead text =
      if (rest.takeWhile isLegacyTail).isEmpty then none
      else some (lead ++ rest.takeWhile isLegacyTail) := by
  unfold legacyToken?
  rw [start]
  rfl

/-- A legacy token is the lead and all tail characters behind it, of which there must be one. -/
theorem legacyToken_eq_some_iff {lead text token : Text} :
    legacyToken? lead text = some token ↔
      ∃ rest, text = lead ++ rest ∧ rest.takeWhile isLegacyTail ≠ [] ∧
        lead ++ rest.takeWhile isLegacyTail = token := by
  cases start : Text.dropPrefix? lead text with
  | none =>
    -- Without its lead there is no token on either side.
    have other := Text.dropPrefix?_eq_none_iff.mp start
    simp only [legacyToken?, start, Option.bind_eq_bind, Option.bind_none]
    refine ⟨fun found => by simp at found, fun ⟨rest, same, _⟩ => ?_⟩
    exact absurd ⟨rest, same.symm⟩ other
  | some rest =>
    -- Behind the lead both sides ask for a tail character.
    obtain rfl := Text.dropPrefix?_eq_some_iff.mp start
    rw [legacyToken_of_dropPrefix start]
    simp only [List.append_cancel_left_eq, exists_eq_left']
    cases rest.takeWhile isLegacyTail with
    | nil => simp
    | cons c tail => simp

/-- A legacy token is found where it stands. -/
theorem sound_legacy (lead : Text) : Sound (legacyToken? lead) := by
  intro text token found
  obtain ⟨rest, rfl, filled, rfl⟩ := legacyToken_eq_some_iff.mp found
  exact ⟨by simp [filled], (List.prefix_append_right_inj lead).mpr (List.takeWhile_prefix _)⟩

/-- A text that starts with a legacy token does so whatever follows. -/
theorem persistent_legacy (lead : Text) : Persistent (legacyToken? lead) := by
  intro text more found
  obtain ⟨token, found⟩ := Option.isSome_iff_exists.mp found
  obtain ⟨rest, rfl, filled, -⟩ := legacyToken_eq_some_iff.mp found
  exact Option.isSome_iff_exists.mpr ⟨_, legacyToken_eq_some_iff.mpr
    ⟨rest ++ more, by simp, Text.takeWhile_append_ne_nil filled more, rfl⟩⟩

/-- The search for a legacy token stops at a character of neither its lead nor its tail. -/
theorem stopsAt_legacy {lead : Text} (other : c ∉ lead) (tail : isLegacyTail c = false) :
    StopsAt c (legacyToken? lead) := by
  intro front back
  -- The lead is found before the character, and the tail ends there.
  have start := Text.dropPrefix?_append_cons other front back
  cases found : Text.dropPrefix? lead front with
  | none => simp [legacyToken?, start, found]
  | some rest =>
    rw [found] at start
    rw [legacyToken_of_dropPrefix start, legacyToken_of_dropPrefix found,
      Text.takeWhile_append_cons tail]

/-- A raw color token is found where it stands. -/
theorem sound_raw (palette : RawPalette) : Sound (rawToken? palette) :=
  sound_shade.wordThen.wordThen

/-- A text that starts with a raw color token starts with one whatever follows. -/
theorem persistent_raw (palette : RawPalette) : Persistent (rawToken? palette) :=
  persistent_shade.wordThen.wordThen

end Finder

end TokenGuard
