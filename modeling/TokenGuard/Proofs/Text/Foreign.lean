import TokenGuard.Proofs.Text.Rewriting

/-! A key that no replacement takes part in stands in the result only where it stood before. -/

namespace TokenGuard

namespace Text

variable {key part new text : Text} {opens closes before after : Neighbour}
  {previous shown : Option Char} {replaced : Replaced}

/-- No replacement starts behind a character of a key, or one that does keeps the character at
its place, which is not one that continues the key. -/
def Unbroken (key part new : Text) (before : Neighbour) : Prop :=
  (∀ c ∈ key, before (some c) = false) ∨
    ∃ n, part.head? = some n ∧ new.head? = some n ∧ n ∉ key.tail

/-- A key is unbroken behind its first character as well. -/
theorem Unbroken.tail {c : Char} (unbroken : Unbroken (c :: key) part new before) :
    Unbroken key part new before := by
  rcases unbroken with free | ⟨n, ofPart, ofNew, other⟩
  · exact .inl fun d member => free d (List.mem_cons_of_mem c member)
  · exact .inr ⟨n, ofPart, ofNew, fun member => other (List.mem_of_mem_tail member)⟩

/-- A key is foreign to a replacement if it neither arises inside the new text nor reaches across
an end of it. -/
structure Foreign (key : Text) (opens closes : Neighbour) (part new : Text)
    (before after : Neighbour) : Prop where
  /-- The key has a character. -/
  filled : key ≠ []
  /-- The replaced part has a character. -/
  replaces : part ≠ []
  /-- What may follow the part is not in the key. -/
  closed : ∀ c ∈ key, after (some c) = false
  /-- The key does not reach across the start of the new text. -/
  unbroken : Unbroken key part new before
  /-- The part is never replaced twice in a row. -/
  apart : before part.getLast? = true → after part.head? = false
  /-- The key does not stand inside the new text. -/
  fresh : ∀ front back prior next, before prior = true → after next = true →
    new = front ++ key ++ back → opens (lastOr prior front) = true →
    closes (back.head?.or next) = false

/-- What continues a key behind a kept character of it was kept as well, and so was the
character behind the key. -/
theorem Rewritten.kept {c : Char} {run behind : Text}
    (walk : Rewritten part new before after (some c) text replaced)
    (unbroken : Unbroken (c :: run) part new before) (same : replaced.text = run ++ behind) :
    ∃ rest, text = run ++ rest ∧ rest.head? = behind.head? := by
  -- The characters of the key are compared one by one with what the walk leaves.
  induction run generalizing c text replaced with
  | nil =>
    obtain rfl : replaced.text = behind := same
    -- A replacement right behind the key would keep the character there.
    refine ⟨text, rfl, ?_⟩
    rcases unbroken with free | ⟨n, ofPart, ofNew, -⟩
    · exact (walk.head?_eq fun starts => by simpa [free c (by simp)] using starts.1).symm
    · cases walk with
      | done => rfl
      | keep => rfl
      | swap => simp [List.head?_append, ofPart, ofNew]
  | cons d run ih =>
    cases walk with
    | done => simp at same
    | keep other tail =>
      obtain ⟨rfl, sameTail⟩ := List.cons.inj same
      obtain ⟨rest, rfl, next⟩ := ih tail unbroken.tail sameTail
      exact ⟨rest, rfl, next⟩
    | swap opened closed tail =>
      -- A replacement inside the key would put a character there that the key does not have.
      rcases unbroken with free | ⟨n, ofPart, ofNew, other⟩
      · simp [free c (by simp)] at opened
      · obtain ⟨new, rfl⟩ := List.head?_eq_some_iff.mp ofNew
        exact absurd (List.cons.inj same).1 (fun isNext => other (by simp [isNext]))

/-- Behind a replaced part the walk does not start with another replacement. -/
theorem Foreign.not_startsBounded {rest : Text}
    (foreign : Foreign key opens closes part new before after) (previous : Option Char)
    (closed : after rest.head? = true) :
    ¬ StartsBounded part before after (lastOr previous part) rest := by
  rintro ⟨opened, behind, rfl, -⟩
  obtain ⟨c, part, rfl⟩ := List.exists_cons_of_ne_nil foreign.replaces
  -- The last character of the part would open it and its first one would close it.
  have opened : before (c :: part).getLast? = true := by
    simpa [lastOr, List.getLast?_cons] using opened
  have := foreign.apart opened
  simp_all

/-- A key that starts inside the new text ends there as well. -/
theorem Foreign.ends_inside {back rest behind : Text}
    (foreign : Foreign key opens closes part new before after) (closed : after rest.head? = true)
    (same : back ++ rest = key ++ behind) :
    ∃ more, back = key ++ more ∧ behind = more ++ rest := by
  -- Otherwise it would have the character that follows the new text, which is closing.
  rcases List.append_eq_append_iff.mp same with ⟨more, rfl, divided⟩ | inside
  · cases more with
    | nil => exact ⟨[], by simp, by simpa using divided.symm⟩
    | cons c more =>
      have isNext : after (some c) = true := by simpa [divided] using closed
      simp [foreign.closed c (by simp)] at isNext
  · exact inside

/-- A key that is foreign to a replacement stands in the result only where it stood before and
the part was not replaced. -/
theorem Rewritten.somewhere_of_foreign
    (walk : Rewritten part new before after previous text replaced)
    (foreign : Foreign key opens closes part new before after)
    (aligned : shown = previous ∨
      after text.head? = true ∧ ¬ StartsBounded part before after previous text)
    (stands : Somewhere (StartsBounded key opens closes) shown replaced.text) :
    Somewhere (fun prior rest => StartsBounded key opens closes prior rest ∧
      ¬ StartsBounded part before after prior rest) previous text := by
  -- The character before a place is the same in both texts, except right behind a replacement,
  -- where neither the key nor another replacement starts.
  induction walk generalizing shown with
  | done =>
    obtain ⟨front, rest, same, -, behind, rfl, -⟩ := stands
    exact absurd (by simp_all) foreign.filled
  | @keep previous c rest replaced other tail ih =>
    -- The key starts with the kept character, or it is found by the rest of the walk.
    rcases somewhere_cons_iff.mp stands with ⟨opened, behind, same, closed⟩ | later
    · obtain ⟨d, run, rfl⟩ := List.exists_cons_of_ne_nil foreign.filled
      obtain ⟨rfl, sameTail⟩ := List.cons.inj same
      rcases aligned with rfl | ⟨isNext, -⟩
      · obtain ⟨rest, rfl, next⟩ := tail.kept foreign.unbroken sameTail
        exact ⟨[], c :: (run ++ rest), rfl, ⟨opened, rest, rfl, next ▸ closed⟩, other⟩
      · simp [foreign.closed c (by simp)] at isNext
    · exact somewhere_cons_iff.mpr (.inr (ih (.inl rfl) later))
  | @swap previous rest replaced opened closed tail ih =>
    have notNext := foreign.not_startsBounded previous closed
    have next : replaced.text.head? = rest.head? := tail.head?_eq notNext
    rcases aligned with rfl | ⟨-, other⟩
    · rcases somewhere_append_iff.mp stands with
        ⟨front, back, rfl, -, isOpen, behind, same, isClosed⟩ | later
      · -- The key would stand inside the new text.
        obtain ⟨more, rfl, rfl⟩ := foreign.ends_inside (next ▸ closed) same
        have notClosed := foreign.fresh front more shown rest.head? opened closed (by simp) isOpen
        rw [List.head?_append, next, notClosed] at isClosed
        exact absurd isClosed (by simp)
      · exact somewhere_append_iff.mpr (.inr (ih (.inr ⟨closed, notNext⟩) later))
    · exact absurd ⟨opened, rest, rfl, closed⟩ other

/-- Replacing never makes a foreign key stand in a text where it did not stand before. -/
theorem standsIn_of_replaceBounded (foreign : Foreign key opens closes part new before after)
    (stands : StandsIn key opens closes (text.replaceBounded part new before after).text) :
    StandsIn key opens closes text := by
  have walk := rewritten_replaceBounded foreign.replaces new text before after
  obtain ⟨skipped, rest, same, here, -⟩ := walk.somewhere_of_foreign foreign (.inl rfl) stands
  exact ⟨skipped, rest, same, here⟩

/-- Replacing a part that is foreign to its own replacement leaves none that has acceptable
neighbours. -/
theorem not_standsIn_replaceBounded (foreign : Foreign part before after part new before after) :
    ¬ StandsIn part before after (text.replaceBounded part new before after).text := by
  intro stands
  have walk := rewritten_replaceBounded foreign.replaces new text before after
  obtain ⟨skipped, rest, -, here, other⟩ := walk.somewhere_of_foreign foreign (.inl rfl) stands
  exact other here

end Text

end TokenGuard
