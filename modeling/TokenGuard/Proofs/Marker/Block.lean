import TokenGuard.Proofs.Drift.Recorded
import TokenGuard.Proofs.Marker.Locate

/-! A generated block contains a marker only where one of its token lines does. -/

namespace TokenGuard

variable {name part hash : Text} {kind : MarkerKind} {tokens : List Text}

/-- A part of one line that starts with a slash lies in the content of a block line, or behind
all of them. -/
theorem infix_flatMap_blockLine_iff {contents : List Text} {rest : Text} (single : '\n' ∉ part)
    (starts : part.head? = some '/') :
    part <:+: contents.flatMap blockLine ++ rest ↔
      (∃ content ∈ contents, part <:+: content) ∨ part <:+: rest := by
  -- The lines are taken off the front one by one.
  induction contents with
  | nil => simp
  | cons content contents ih =>
    -- It neither starts in the indent nor reaches across the end of the line.
    have divided : (content :: contents).flatMap blockLine ++ rest =
        indent ++ (content ++ '\n' :: (contents.flatMap blockLine ++ rest)) := by
      simp [blockLine]
    rw [divided, Text.infix_append_iff_of_head starts (by decide),
      Text.infix_append_cons_iff single, ih]
    simp [or_assoc]

/-- A marker does not lie in a comment that opens in another way. -/
theorem not_infix_of_opening {comment opening : Text} (plain : '/' ∉ name)
    (isComment : IsComment comment) (opens : opening <+: comment)
    (other : ¬ opening <+: "/* NX:" ∧ ¬ ("/* NX:" : Text) <+: opening) :
    ¬ marker name kind <:+: comment := by
  intro piece
  -- It would be the whole comment, and so open in its own way.
  rw [← isComment.eq_of_piece (isComment_marker plain kind) piece] at opens
  have own : ("/* NX:" : Text) <+: marker name kind := by
    unfold marker
    simp only [List.append_assoc]
    exact List.prefix_append _ _
  exact (List.prefix_or_prefix_of_prefix opens own).elim other.1 other.2

/-- The banner is a comment. -/
theorem isComment_banner : IsComment banner :=
  ⟨" AUTO-GENERATED FROM TOKEN MANIFEST - DO NOT EDIT ", by decide, rfl⟩

/-- A recordable hash makes a hash comment. -/
theorem isComment_hash (recordable : IsRecordable hash) :
    IsComment (hashOpening ++ hash ++ hashClosing) := by
  obtain ⟨digits, -, each, rfl⟩ := recordable
  refine ⟨" HASH: " ++ (fingerprintLabel ++ digits) ++ " ", ?_, ?_⟩
  · -- A slash is no digit.
    have other : '/' ∉ digits := fun member => absurd (each '/' member) (by decide)
    simp only [List.mem_append, not_or]
    exact ⟨⟨by decide, by decide, other⟩, by decide⟩
  · have opening : hashOpening = ['/', '*'] ++ (" HASH: " : Text) := rfl
    have closing : hashClosing = (" " : Text) ++ ['*', '/'] := rfl
    simp only [opening, closing, List.append_assoc]

/-- A marker of one line lies in a block exactly if it lies in one of the token lines. -/
theorem infix_formatBlock_iff (plain : '/' ∉ name) (single : '\n' ∉ name)
    (recordable : IsRecordable hash) :
    marker name kind <:+: formatBlock hash tokens ↔ ∃ token ∈ tokens, marker name kind <:+: token := by
  have starts := head?_marker name kind
  have line : '\n' ∉ marker name kind := by
    unfold marker
    cases kind <;> simpa [MarkerKind.label] using single
  have divided : formatBlock hash tokens = ['\n'] ++
      ((banner :: (hashOpening ++ hash ++ hashClosing) :: tokens).flatMap blockLine ++ indent) := by
    simp [formatBlock]
  -- An indent has no slash.
  have notIndent : ¬ marker name kind <:+: indent := fun piece =>
    absurd (piece.subset (List.mem_of_mem_head? starts)) (by decide)
  -- The two comments in front open in another way than a marker.
  have notBanner : ¬ marker name kind <:+: banner :=
    not_infix_of_opening plain isComment_banner (List.prefix_refl _) (by decide)
  have notHash : ¬ marker name kind <:+: hashOpening ++ hash ++ hashClosing :=
    not_infix_of_opening plain (isComment_hash recordable)
      ((List.prefix_append hashOpening hash).trans (List.prefix_append _ hashClosing)) (by decide)
  rw [divided, Text.infix_append_iff_of_head starts (by decide),
    infix_flatMap_blockLine_iff line starts]
  simp only [List.mem_cons, exists_eq_or_imp, notBanner, notHash, notIndent, false_or, or_false]

/-- A block ends with the last token line and the indent of the end marker. -/
theorem suffix_formatBlock (hash : Text) (tokens : List Text) (token : Text) :
    token ++ ['\n'] ++ indent <:+ formatBlock hash (tokens ++ [token]) := by
  refine ⟨['\n'] ++ blockLine banner ++ blockLine (hashOpening ++ hash ++ hashClosing) ++
    tokens.flatMap blockLine ++ indent, ?_⟩
  simp [formatBlock, blockLine]

/-- The only semicolon of a block is at the end of its last line, with no room for more behind. -/
theorem not_infix_formatBlock_of_late (recordable : IsRecordable hash) (line : Text)
    (fresh : ';' ∉ line) (long : 4 ≤ part.length) :
    ¬ ';' :: part <:+: formatBlock hash [line ++ [';']] := by
  have divided : formatBlock hash [line ++ [';']] = (['\n'] ++ blockLine banner ++
      blockLine (hashOpening ++ hash ++ hashClosing) ++ indent ++ line) ++
        (';' :: '\n' :: indent) := by
    simp [formatBlock, blockLine]
  -- Neither the fixed parts of a block nor a hash has a semicolon.
  have inFront : ∀ front ∈ [['\n'], banner, indent, hashOpening, hashClosing], ';' ∉ front := by
    decide
  have ofHash : ';' ∉ hash := by
    obtain ⟨digits, -, each, rfl⟩ := recordable
    have other : ';' ∉ digits := fun member => absurd (each ';' member) (by decide)
    exact fun member => (List.mem_append.mp member).elim (by decide) other
  rw [divided]
  refine Text.not_infix_of_late ?_ long
  simp [blockLine, inFront, ofHash, fresh]

end TokenGuard
