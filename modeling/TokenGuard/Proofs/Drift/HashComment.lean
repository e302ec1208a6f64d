import TokenGuard.Proofs.Drift.Recorded

/-! The hash that is read from a body is that of the leftmost well-formed hash comment, however many
malformed ones are in front of it, and a body without a well-formed comment has none. -/

namespace TokenGuard

variable {c : Char} {body front hash text : Text}

/-- The comment that records a hash. -/
def hashComment (hash : Text) : Text := hashOpening ++ hash ++ hashClosing

/-- A well-formed hash comment of a body, with what is in front of it. -/
structure HashCommentAt (front hash body : Text) : Prop where
  /-- The hash has the label and at least one digit. -/
  recordable : IsRecordable hash
  /-- The comment stands behind what is in front of it. -/
  stands : front ++ hashComment hash <+: body

/-- The hash of a well-formed hash comment that no other one of the body is in front of. -/
def LeftmostHash (hash body : Text) : Prop :=
  ∃ front, HashCommentAt front hash body ∧
    ∀ other hash', HashCommentAt other hash' body → front.length ≤ other.length

/-- The hash of a comment is found exactly if a text starts with a well-formed one. -/
theorem hashComment?_eq_some_iff :
    hashComment? text = some hash ↔ HashCommentAt [] hash text := by
  constructor
  · intro found
    -- Behind the label stand digits, and what is left of the text starts with the closing.
    simp only [hashComment?, Option.bind_eq_bind, Option.bind_eq_some_iff] at found
    obtain ⟨digitsOn, labelled, found⟩ := found
    split at found
    · cases found
    · next filled =>
      obtain ⟨behind, closed, same⟩ := Option.bind_eq_some_iff.mp found
      obtain rfl := Option.some.inj same
      have labelled := Text.dropPrefix?_eq_some_iff.mp labelled
      have closed := Text.dropPrefix?_eq_some_iff.mp closed
      have divided : digitsOn = digitsOn.takeWhile isHashDigit ++ (hashClosing ++ behind) := by
        rw [← closed, List.takeWhile_append_dropWhile]
      refine ⟨⟨digitsOn.takeWhile isHashDigit, by simpa using filled, ?_, rfl⟩, behind, ?_⟩
      · exact fun c member => List.all_eq_true.mp List.all_takeWhile c member
      · calc [] ++ hashComment (fingerprintLabel ++ digitsOn.takeWhile isHashDigit) ++ behind
            = hashOpening ++ fingerprintLabel ++
                (digitsOn.takeWhile isHashDigit ++ (hashClosing ++ behind)) := by simp [hashComment]
          _ = text := by rw [← divided, labelled]
  · rintro ⟨recordable, behind, rfl⟩
    exact hashComment?_written recordable behind

/-- There is no hash comment in an empty body. -/
theorem not_hashCommentAt_nil : ¬ HashCommentAt front hash [] := by
  intro comment
  -- A comment has characters, if only those of its opening.
  have nothing := List.prefix_nil.mp comment.stands
  simp [hashComment, show hashOpening = '/' :: ("* HASH: " : Text) from rfl] at nothing

/-- A comment behind the first character of a body is one of the rest of the body. -/
theorem hashCommentAt_cons_iff :
    HashCommentAt (c :: front) hash (c :: body) ↔ HashCommentAt front hash body := by
  have shifted : c :: front ++ hashComment hash <+: c :: body ↔
      front ++ hashComment hash <+: body := List.prefix_cons_inj c
  exact ⟨fun comment => ⟨comment.recordable, shifted.mp comment.stands⟩,
    fun comment => ⟨comment.recordable, shifted.mpr comment.stands⟩⟩

/-- What is in front of a comment starts with the first character of the body, unless the comment
does. -/
theorem HashCommentAt.front_cases (comment : HashCommentAt front hash (c :: body)) :
    front = [] ∨ ∃ rest, front = c :: rest ∧ HashCommentAt rest hash body := by
  cases front with
  | nil => exact .inl rfl
  | cons d rest =>
    obtain ⟨rfl, -⟩ := List.cons_prefix_cons.mp comment.stands
    exact .inr ⟨rest, rfl, hashCommentAt_cons_iff.mp comment⟩

/-- A comment at the very start of a body is the leftmost one. -/
theorem leftmostHash_of_start (found : hashComment? body = some hash) : LeftmostHash hash body :=
  ⟨[], hashComment?_eq_some_iff.mp found, fun _ _ _ => Nat.zero_le _⟩

/-- If no comment starts a body, the leftmost one is that of the rest. -/
theorem leftmostHash_cons_iff (absent : hashComment? (c :: body) = none) :
    LeftmostHash hash (c :: body) ↔ LeftmostHash hash body := by
  -- No front is empty, so each is one character longer than the front within the rest.
  have later : ∀ front hash, HashCommentAt front hash (c :: body) →
      ∃ rest, front = c :: rest ∧ HashCommentAt rest hash body := by
    intro front hash comment
    refine comment.front_cases.resolve_left ?_
    rintro rfl
    rw [hashComment?_eq_some_iff.mpr comment] at absent
    cases absent
  constructor
  · rintro ⟨front, comment, first⟩
    obtain ⟨rest, rfl, inner⟩ := later front hash comment
    refine ⟨rest, inner, fun other hash' elsewhere => ?_⟩
    simpa using first (c :: other) hash' (hashCommentAt_cons_iff.mpr elsewhere)
  · rintro ⟨front, comment, first⟩
    refine ⟨c :: front, hashCommentAt_cons_iff.mpr comment, fun other hash' elsewhere => ?_⟩
    obtain ⟨rest, rfl, inner⟩ := later other hash' elsewhere
    simpa using first rest hash' inner

/-- The hash that is read from a body is the leftmost one. -/
theorem extractHash_eq_some_iff : extractHash body = some hash ↔ LeftmostHash hash body := by
  -- The search looks for a comment at each character, and goes on behind it if there is none.
  induction body with
  | nil =>
    refine ⟨fun found => ?_, fun ⟨front, comment, _⟩ => absurd comment not_hashCommentAt_nil⟩
    cases found
  | cons c body ih =>
    rw [extractHash]
    cases atStart : hashComment? (c :: body) with
    | none => rw [Option.none_or, ih, leftmostHash_cons_iff atStart]
    | some found =>
      rw [Option.some_or]
      constructor
      · rintro ⟨⟩
        exact leftmostHash_of_start atStart
      · -- The leftmost comment can only be the one that starts the body.
        rintro ⟨front, comment, first⟩
        have empty : front = [] := List.length_eq_zero_iff.mp
          (Nat.le_zero.mp (first [] found (hashComment?_eq_some_iff.mp atStart)))
        rw [empty] at comment
        rw [← atStart]
        exact hashComment?_eq_some_iff.mpr comment

/-- A body from which no hash is read has no well-formed comment anywhere. -/
theorem not_hashCommentAt_of_extractHash (nothing : extractHash body = none) :
    ¬ HashCommentAt front hash body := by
  -- A comment would start at the first character or in what is behind it.
  induction body generalizing front with
  | nil => exact not_hashCommentAt_nil
  | cons c body ih =>
    rw [extractHash, Option.or_eq_none_iff] at nothing
    intro comment
    rcases comment.front_cases with rfl | ⟨rest, -, later⟩
    · rw [hashComment?_eq_some_iff.mpr comment] at nothing
      cases nothing.1
    · exact ih nothing.2 later

/-- No hash is read exactly if the body has no well-formed comment. -/
theorem extractHash_eq_none_iff :
    extractHash body = none ↔ ∀ front hash, ¬ HashCommentAt front hash body := by
  constructor
  · exact fun nothing front hash => not_hashCommentAt_of_extractHash nothing
  · -- What is read is the hash of some comment.
    intro nowhere
    cases read : extractHash body with
    | none => rfl
    | some hash =>
      obtain ⟨front, comment, -⟩ := extractHash_eq_some_iff.mp read
      exact absurd comment (nowhere front hash)

/-- A hash that was recorded in a block is read back whatever token lines follow, and from every body
the hash of its leftmost well-formed comment is read, and none only if it has no such comment. -/
theorem extractHash_reads_leftmost (recordable : IsRecordable hash) (tokens : List Text) :
    extractHash (formatBlock hash tokens) = some hash ∧
    ∀ body, (∀ found, extractHash body = some found ↔ LeftmostHash found body) ∧
      (extractHash body = none ↔ ∀ front found, ¬ HashCommentAt front found body) := by
  refine ⟨extractHash_formatBlock recordable tokens, fun body => ⟨fun found => ?_, ?_⟩⟩
  · exact extractHash_eq_some_iff
  · exact extractHash_eq_none_iff

/-- The hash of a block is read back although a token line looks like another hash comment. -/
theorem extractHash_reads_leftmost_disguised :
    IsRecordable "sha256-0123456789ab" ∧
    extractHash (formatBlock "sha256-0123456789ab" ["/* HASH: sha256-ffffffffffff */"]) =
      some "sha256-0123456789ab" :=
  have recordable : IsRecordable "sha256-0123456789ab" :=
    ⟨"0123456789ab", by decide, List.all_eq_true.mp (by decide), rfl⟩
  ⟨recordable, (extractHash_reads_leftmost recordable ["/* HASH: sha256-ffffffffffff */"]).1⟩

example : extractHash "/* HASH: sha256- *//* HASH: sha256-0g *//* HASH: sha256-a1 */" =
    some "sha256-a1" := by decide +kernel

end TokenGuard
