import Mathlib.Data.List.Induction
import Mathlib.Data.List.TakeWhile
import TokenGuard.Proofs.Residual.Finder
import TokenGuard.Proofs.Text.Rewriting

/-! A scan finds a token where one starts at a word boundary, and a character that no token has
parts it in two. -/

namespace TokenGuard

open Finder

variable {token? : Finder} {previous other : Option Char} {skip : Nat} {c : Char}
  {text token front run back : Text}

/-- A scan only asks whether the character before the text is one of a word. -/
theorem scanTokens_congr (same : previous.any isAsciiWord = other.any isAsciiWord) :
    scanTokens token? previous skip text = scanTokens token? other skip text := by
  cases text with
  | nil => rfl
  | cons c rest => simp [scanTokens, atBoundary, same]

/-- A place is a word boundary at which a token starts. -/
def StartsToken (token? : Finder) (previous : Option Char) (text : Text) : Prop :=
  atBoundary isAsciiWord previous text.head? = true ∧ (token? text).isSome = true

/-- What a scan finds stands at a word boundary. -/
theorem exists_place_of_mem_scanTokens (found : token ∈ scanTokens token? previous skip text) :
    Text.Somewhere (fun before rest => atBoundary isAsciiWord before rest.head? = true ∧
      token? rest = some token) previous text := by
  -- The scan goes on until it finds the token.
  induction text generalizing previous skip with
  | nil => simp [scanTokens] at found
  | cons c rest ih =>
    rw [Text.somewhere_cons_iff]
    cases skip with
    | succ skip => exact .inr (ih found)
    | zero =>
      by_cases boundary : atBoundary isAsciiWord previous (some c) = true
      · cases here : token? (c :: rest) with
        | some start =>
          -- What is found first stands here, and all else stands behind it.
          simp only [scanTokens, boundary, if_true, here, List.mem_cons] at found
          rcases found with rfl | later
          · exact .inl ⟨boundary, rfl⟩
          · exact .inr (ih later)
        | none =>
          have later : token ∈ scanTokens token? (some c) 0 rest := by
            simpa [scanTokens, here] using found
          exact .inr (ih later)
      · have later : token ∈ scanTokens token? (some c) 0 rest := by
          simpa [scanTokens, boundary] using found
        exact .inr (ih later)

/-- What a scan finds starts somewhere. -/
theorem somewhere_of_mem_scanTokens (found : token ∈ scanTokens token? previous skip text) :
    Text.Somewhere (StartsToken token?) previous text := by
  obtain ⟨skipped, rest, same, boundary, here⟩ := exists_place_of_mem_scanTokens found
  exact ⟨skipped, rest, same, boundary, by simp [here]⟩

/-- A scan finds something where a token starts. -/
theorem scanTokens_ne_nil (sound : Sound token?)
    (starts : Text.Somewhere (StartsToken token?) previous text) :
    scanTokens token? previous 0 text ≠ [] := by
  -- Before the first place at which a token starts, the scan skips nothing.
  induction text generalizing previous with
  | nil =>
    obtain ⟨skipped, rest, same, -, found⟩ := starts
    obtain ⟨rfl, rfl⟩ : skipped = [] ∧ rest = [] := by simpa using same.symm
    simp [sound.nil] at found
  | cons c rest ih =>
    rcases Text.somewhere_cons_iff.mp starts with ⟨boundary, found⟩ | later
    · obtain ⟨token, found⟩ := Option.isSome_iff_exists.mp found
      simp_all [scanTokens]
    · simp only [scanTokens]
      split
      · simp
      · exact ih later

/-- A scan starts anew behind a character at which the search for tokens stops. -/
theorem scanTokens_append_cons (sound : Sound token?) (stops : StopsAt c token?)
    (within : skip ≤ front.length) :
    scanTokens token? previous skip (front ++ c :: back) =
      scanTokens token? previous skip front ++ scanTokens token? (some c) 0 back := by
  -- Up to the character both scans find and skip the same.
  induction front generalizing previous skip with
  | nil =>
    obtain rfl : skip = 0 := by simpa using within
    have nothing : token? (c :: back) = none := (stops [] back).trans sound.nil
    simp [scanTokens, nothing]
  | cons d front ih =>
    cases skip with
    | succ skip => exact ih (by simpa using within)
    | zero =>
      have found : token? (d :: (front ++ c :: back)) = token? (d :: front) :=
        stops (d :: front) back
      simp only [List.cons_append, scanTokens, found]
      by_cases boundary : atBoundary isAsciiWord previous (some d) = true
      · cases here : token? (d :: front) with
        | none => simpa [boundary] using ih (Nat.zero_le _)
        | some token =>
          -- The token lies in front of the character, so skipping it does not pass that.
          have short := (sound _ _ here).2.length_le
          have within : token.length - 1 ≤ front.length := by simp at short; omega
          simpa [boundary] using ih within
      · simpa [boundary] using ih (Nat.zero_le _)

section Runs

variable {inner : Char → Bool}

/-- What a scan finds is found by scanning one maximal run of characters that tokens have. -/
theorem exists_run_of_mem_scanTokens (sound : Sound token?)
    (stops : ∀ c, inner c = false → StopsAt c token?)
    (found : token ∈ scanTokens token? previous 0 text) :
    ∃ front run back, text = front ++ run ++ back ∧ (∀ c ∈ run, inner c = true) ∧
      front.getLast?.any inner = false ∧ back.head?.any inner = false ∧
      token ∈ scanTokens token? (Text.lastOr previous front) 0 run := by
  -- The first run ends at the first other character, behind which the scan starts anew.
  induction size : text.length using Nat.strongRecOn generalizing text previous with
  | _ n ih =>
    have parted := List.takeWhile_append_dropWhile (p := inner) (l := text)
    have inside : ∀ c ∈ text.takeWhile inner, inner c = true := fun _ => List.mem_takeWhile_imp
    have next := List.head?_dropWhile_not inner text
    cases rest : text.dropWhile inner with
    | nil =>
      -- Without another character the whole text is the run.
      rw [rest, List.append_nil] at parted
      exact ⟨[], text, [], by simp, parted ▸ inside, rfl, rfl, found⟩
    | cons c back =>
      rw [rest] at parted next
      have outside : inner c = false := by simpa using next
      rw [← parted, scanTokens_append_cons sound (stops c outside) (Nat.zero_le _)] at found
      rcases List.mem_append.mp found with here | later
      · exact ⟨[], text.takeWhile inner, c :: back, by simp [parted], inside, rfl,
          by simp [outside], here⟩
      · -- The run that is looked for comes behind the character.
        have shorter : back.length < n := by
          rw [← size, ← parted]
          simp only [List.length_append, List.length_cons]
          omega
        obtain ⟨front, run, behind, rfl, inside, opened, closed, found⟩ :=
          ih back.length shorter later rfl
        refine ⟨text.takeWhile inner ++ c :: front, run, behind, ?_, inside, ?_, closed, ?_⟩
        · simpa using parted.symm
        · cases front with
          | nil => simp [outside]
          | cons d front => simpa [List.getLast?_append, List.getLast?_cons] using opened
        · rwa [Text.lastOr_append, Text.lastOr_cons]

/-- Scanning a maximal run on its own finds nothing that scanning the whole text does not. -/
theorem mem_scanTokens_of_run (sound : Sound token?)
    (stops : ∀ c, inner c = false → StopsAt c token?)
    (opened : front.getLast?.any inner = false) (closed : back.head?.any inner = false)
    (found : token ∈ scanTokens token? (Text.lastOr previous front) 0 run) :
    token ∈ scanTokens token? previous 0 (front ++ run ++ back) := by
  -- What follows the run does not change what is found in it.
  have behind : token ∈ scanTokens token? (Text.lastOr previous front) 0 (run ++ back) := by
    cases back with
    | nil => simpa using found
    | cons c back =>
      rw [scanTokens_append_cons sound (stops c (by simpa using closed)) (Nat.zero_le _)]
      exact List.mem_append_left _ found
  -- The last character before the run is one behind which the scan starts anew.
  cases front using List.reverseRec with
  | nil => exact behind
  | append_singleton front c =>
    have split : front ++ [c] ++ run ++ back = front ++ c :: (run ++ back) := by simp
    have last : Text.lastOr previous (front ++ [c]) = some c := by simp [Text.lastOr]
    rw [split, scanTokens_append_cons sound (stops c (by simpa using opened)) (Nat.zero_le _)]
    exact List.mem_append_right _ (last ▸ behind)

end Runs

end TokenGuard
