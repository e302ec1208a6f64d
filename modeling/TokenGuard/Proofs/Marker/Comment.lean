import TokenGuard.Marker

/-! Markers are comments, and comments do not arise where a text is put between two of them. -/

namespace TokenGuard

/-- A comment: a slash stands at its two ends, each beside an asterisk, and nowhere else. -/
def IsComment (part : Text) : Prop :=
  ∃ inside : Text, '/' ∉ inside ∧ part = ['/', '*'] ++ inside ++ ['*', '/']

/-- The marker of a name without a slash is a comment. -/
theorem isComment_marker {name : Text} (plain : '/' ∉ name) (kind : MarkerKind) :
    IsComment (marker name kind) := by
  refine ⟨" NX:" ++ name ++ ":" ++ kind.label ++ " ", ?_, ?_⟩
  · -- Only the name could bring a slash between the ends.
    cases kind <;> simpa [MarkerKind.label] using plain
  · have opening : ("/* NX:" : Text) = ['/', '*'] ++ (" NX:" : Text) := rfl
    have closing : (" */" : Text) = (" " : Text) ++ ['*', '/'] := rfl
    unfold marker
    simp only [opening, closing, List.append_assoc]

namespace IsComment

variable {part left right : Text}

/-- A slash of a comment is its first or its last character. -/
theorem slash_at_end (comment : IsComment part) (divided : part = left ++ '/' :: right) :
    left = [] ∨ right = [] := by
  obtain ⟨inside, plain, rfl⟩ := comment
  cases left with
  | nil => exact .inl rfl
  | cons first left =>
    -- Without its two ends the comment has no slash, so the slash must be the last character.
    rcases List.eq_nil_or_concat right with rfl | ⟨right, last, rfl⟩
    · exact .inr rfl
    · have inner : ('*' :: inside ++ ['*']) ++ ['/'] = (left ++ '/' :: right) ++ [last] := by
        simpa using (List.cons.inj divided).2
      have member : '/' ∈ '*' :: inside ++ ['*'] := by
        rw [(List.append_inj' inner rfl).1]
        simp
      simp [plain] at member

/-- What is cut off from a comment behind a slash starts with an asterisk. -/
theorem head?_of_slash (comment : IsComment (left ++ right)) (front : left.getLast? = some '/')
    (rest : right ≠ []) : right.head? = some '*' := by
  -- The slash is not the last character of the comment, so it is the first.
  obtain ⟨init, rfl⟩ := List.getLast?_eq_some_iff.mp front
  have divided : init ++ ['/'] ++ right = init ++ '/' :: right := by simp
  rcases comment.slash_at_end divided with rfl | none
  · obtain ⟨inside, -, same⟩ := comment
    have tail : right = '*' :: (inside ++ ['*', '/']) := by simpa using same
    simp [tail]
  · exact absurd none rest

/-- What is cut off from a comment before a slash ends with an asterisk. -/
theorem getLast?_of_slash (comment : IsComment (left ++ right)) (front : left ≠ [])
    (rest : right.head? = some '/') : left.getLast? = some '*' := by
  -- The slash is not the first character of the comment, so it is the last.
  obtain ⟨right, rfl⟩ := List.head?_eq_some_iff.mp rest
  rcases comment.slash_at_end rfl with none | rfl
  · exact absurd none front
  · obtain ⟨inside, -, same⟩ := comment
    have ends : left ++ ['/'] = (['/', '*'] ++ inside ++ ['*']) ++ ['/'] := by simpa using same
    rw [(List.append_inj' ends rfl).1]
    exact List.getLast?_concat ..

/-- No comment is a piece of another comment. -/
theorem eq_of_piece {inner : Text} (comment : IsComment part) (other : IsComment inner)
    (piece : inner <:+: part) : inner = part := by
  obtain ⟨left, right, divided⟩ := piece
  obtain ⟨inside, -, rfl⟩ := other
  -- The first slash of the piece is no last character, so nothing comes before it.
  have first : part = left ++ '/' :: ('*' :: (inside ++ ['*', '/'] ++ right)) := by
    simp [← divided]
  have opens : left = [] := by
    rcases comment.slash_at_end first with none | none
    · exact none
    · simp at none
  -- Its last slash is no first character, so nothing comes behind it.
  have last : part = (left ++ ['/', '*'] ++ inside ++ ['*']) ++ '/' :: right := by
    simp [← divided]
  have closes : right = [] := by
    rcases comment.slash_at_end last with none | none
    · simp at none
    · exact none
  simpa [opens, closes] using divided

end IsComment

/-- A text that forms no comment with the slashes between which it is put. -/
structure Insulated (text : Text) : Prop where
  /-- There is something between the slashes. -/
  nonempty : text ≠ []
  /-- No comment is opened by the slash before the text. -/
  head : text.head? ≠ some '*'
  /-- No comment is closed by the slash behind the text. -/
  last : text.getLast? ≠ some '*'

variable {part front new rear left right : Text}

/-- A comment that does not start before an insulated text starts behind it. -/
private theorem behind_insulated (left : Text) (comment : IsComment part)
    (insulated : Insulated new) (clean : ¬ part <:+: new) (opened : rear.head? = some '/')
    (found : new ++ rear = left ++ part ++ right) :
    ∃ between, left = new ++ between ∧ rear = between ++ part ++ right := by
  -- Otherwise it would lie in the text or reach over its end.
  rcases List.append_eq_append_iff.mp found with ⟨excess, divided, rest⟩ | ⟨between, inside, -⟩
  · rcases List.append_eq_append_iff.mp divided with ⟨head, rfl, same⟩ | ⟨gap, rfl, rfl⟩
    · cases head with
      | nil => exact ⟨[], by simp, by simpa [same] using rest⟩
      | cons c head =>
        cases excess with
        | nil => exact absurd ⟨left, [], by simp [same]⟩ clean
        | cons d excess =>
          -- What the text has of the comment would end with an asterisk.
          have slash : (d :: excess).head? = some '/' := by simpa [rest] using opened
          have ends := (same ▸ comment).getLast?_of_slash (by simp) slash
          exact absurd (by simpa [List.getLast?_append] using ends) insulated.last
    · exact ⟨gap, rfl, rest⟩
  · exact absurd ⟨left, between, inside.symm⟩ clean

/-- Wherever a part occurs in a text, it lies before or behind a body. -/
def Outside (part front body rear : Text) : Prop :=
  ∀ left right, front ++ body ++ rear = left ++ part ++ right →
    (∃ between, front = left ++ part ++ between) ∨
      ∃ between, left = front ++ body ++ between ∧ rear = between ++ part ++ right

/-- Around an insulated text between two slashes, every comment lies before or behind it. -/
theorem IsComment.outside (comment : IsComment part) (insulated : Insulated new)
    (clean : ¬ part <:+: new) (closed : front.getLast? = some '/')
    (opened : rear.head? = some '/') : Outside part front new rear := by
  intro left right found
  -- A comment that starts in the front does not reach over its slash.
  rw [List.append_assoc] at found
  rcases List.append_eq_append_iff.mp found with ⟨excess, divided, rest⟩ | ⟨between, inside, -⟩
  · rcases List.append_eq_append_iff.mp divided with ⟨head, rfl, rfl⟩ | ⟨gap, rfl, rfl⟩
    · cases head with
      | nil =>
        -- A comment that starts right at the text would have to start behind it.
        obtain ⟨between, empty, same⟩ := behind_insulated [] comment insulated clean
          opened (by simpa using rest)
        exact absurd (List.append_eq_nil_iff.mp empty.symm).1 insulated.nonempty
      | cons c head =>
        cases excess with
        | nil => exact .inl ⟨[], by simp⟩
        | cons d excess =>
          -- What reaches into the text would start with an asterisk.
          have slash : (c :: head).getLast? = some '/' := by
            simpa [List.getLast?_append] using closed
          have starts := comment.head?_of_slash slash (by simp)
          obtain ⟨e, new, rfl⟩ := List.exists_cons_of_ne_nil insulated.nonempty
          have same : e = d := by simpa using congrArg List.head? rest
          exact absurd (by simpa [same] using starts) insulated.head
    · obtain ⟨between, rfl, behind⟩ := behind_insulated gap comment insulated clean
        opened (by simpa using rest)
      exact .inr ⟨between, by simp, behind⟩
  · exact .inl ⟨between, inside⟩

end TokenGuard
