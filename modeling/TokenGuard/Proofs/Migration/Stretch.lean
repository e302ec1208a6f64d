import TokenGuard.Migration
import TokenGuard.Proofs.Text.Rewriting

/-! A text as its stretches between class delimiters, which can be edited one by one. -/

namespace TokenGuard

open Text

variable {before after : Option Char} {text left right : Text} {c d : Char} {s : Stretch}

/-- What parts class tokens. -/
def isClassDelimiter (c : Char) : Bool := opensClass c || closesClass c

/-- No character of a text is a class delimiter. -/
def Undelimited (text : Text) : Prop := ∀ c ∈ text, isClassDelimiter c = false

instance (text : Text) : Decidable (Undelimited text) :=
  List.decidableBAll _ text

/-- A longest piece of a text without class delimiters, with the characters beside it. -/
structure Stretch where
  /-- The character before the piece, `none` at the start of the text. -/
  before : Option Char
  /-- The piece, which is empty between two delimiters in a row. -/
  content : Text
  /-- The character behind the piece, `none` at the end of the text. -/
  after : Option Char
  deriving DecidableEq

/-- A stretch with one more character in front. -/
def Stretch.extend (c : Char) (s : Stretch) : Stretch := { s with content := c :: s.content }

/-- The stretches in order of a text that stands between two characters. -/
def stretches (before : Option Char) (text : Text) (after : Option Char) : List Stretch :=
  match text with
  | [] => [⟨before, [], after⟩]
  | c :: rest =>
    if isClassDelimiter c then ⟨before, [], some c⟩ :: stretches (some c) rest after
    else (stretches before rest after).modifyHead (Stretch.extend c)

/-- The text in which stretches are edited, and what stands behind each of them is kept. -/
def spell (edit : Stretch → Text) (list : List Stretch) : Text :=
  list.flatMap fun s => edit s ++ s.after.toList

/-- A text is undelimited if its first character is no delimiter and the rest is undelimited. -/
theorem undelimited_cons_iff :
    Undelimited (c :: text) ↔ isClassDelimiter c = false ∧ Undelimited text :=
  List.forall_mem_cons

/-- Every text is undelimited or has a first delimiter, from where it goes on in the same way. -/
theorem undelimited_induction {motive : Text → Prop}
    (whole : ∀ text, Undelimited text → motive text)
    (parted : ∀ run d rest, Undelimited run → isClassDelimiter d = true → motive rest →
      motive (run ++ d :: rest)) (text : Text) : motive text := by
  -- Character by character, the part before the first delimiter gets longer.
  suffices general : ∀ run, Undelimited run → motive (run ++ text) from
    general [] (by simp [Undelimited])
  induction text with
  | nil => simpa using whole
  | cons c text ih =>
    intro run plain
    by_cases delimiter : isClassDelimiter c = true
    · exact parted run c text plain delimiter (ih [] (by simp [Undelimited]))
    · have longer : Undelimited (run ++ [c]) := by
        intro other member
        rcases List.mem_append.mp member with inRun | isLast
        · exact plain other inRun
        · simpa [List.mem_singleton.mp isLast] using delimiter
      simpa using ih (run ++ [c]) longer

/-- The first stretch of a text starts with it, and the others do not depend on what precedes. -/
theorem exists_stretches_eq_cons (text : Text) (after : Option Char) :
    ∃ run behind others, text = run ++ behind ∧
      ∀ before, stretches before text after = ⟨before, run, behind.head?.or after⟩ :: others := by
  -- A character that is no delimiter extends the first stretch.
  induction text with
  | nil => exact ⟨[], [], [], rfl, fun before => rfl⟩
  | cons c text ih =>
    by_cases delimiter : isClassDelimiter c = true
    · exact ⟨[], c :: text, stretches (some c) text after, rfl, fun before => by
        simp [stretches, delimiter]⟩
    · obtain ⟨run, behind, others, rfl, first⟩ := ih
      exact ⟨c :: run, behind, others, rfl, fun before => by
        simp [stretches, delimiter, first, Stretch.extend]⟩

/-- An undelimited text is one stretch. -/
theorem stretches_of_undelimited (plain : Undelimited text) :
    stretches before text after = [⟨before, text, after⟩] := by
  -- Every character makes the only stretch longer.
  induction text with
  | nil => rfl
  | cons c text ih =>
    obtain ⟨other, plain⟩ := undelimited_cons_iff.mp plain
    simp [stretches, other, ih plain, Stretch.extend]

/-- A delimiter parts the stretches before it from those behind it. -/
theorem stretches_append_cons (delimiter : isClassDelimiter d = true) :
    stretches before (left ++ d :: right) after =
      stretches before left (some d) ++ stretches (some d) right after := by
  -- The stretches before the delimiter are those of a text that ends there.
  induction left generalizing before with
  | nil => simp [stretches, delimiter]
  | cons c left ih =>
    by_cases other : isClassDelimiter c = true
    · simp [stretches, other, ih]
    · -- Extending the first stretch leaves the others as they are.
      obtain ⟨run, behind, others, -, first⟩ := exists_stretches_eq_cons left (some d)
      simp [stretches, other, ih, first]

/-- The stretches are the pieces without a delimiter that no character can be added to. -/
theorem mem_stretches_iff : s ∈ stretches before text after ↔ Undelimited s.content ∧
    ∃ front back, text = front ++ s.content ++ back ∧
      (∀ c ∈ front.getLast?, isClassDelimiter c = true) ∧
      (∀ c ∈ back.head?, isClassDelimiter c = true) ∧
      s.before = lastOr before front ∧ s.after = back.head?.or after := by
  constructor
  · -- The stretches are followed from delimiter to delimiter.
    induction text using undelimited_induction generalizing before with
    | whole text plain =>
      rw [stretches_of_undelimited plain, List.mem_singleton]
      rintro rfl
      exact ⟨plain, [], [], by simp, by simp, by simp, rfl, rfl⟩
    | parted run d rest plain delimiter ih =>
      rw [stretches_append_cons delimiter, stretches_of_undelimited plain, List.singleton_append,
        List.mem_cons]
      rintro (rfl | later)
      · exact ⟨plain, [], d :: rest, by simp, by simp, by simpa using delimiter, rfl, rfl⟩
      · obtain ⟨clean, front, back, rfl, opened, closed, prior, next⟩ := ih later
        refine ⟨clean, run ++ d :: front, back, by simp, ?_, closed, ?_, next⟩
        · -- In front of the piece stands a delimiter: one of the rest, or the one that parts it
          -- off.
          cases last : front.getLast? with
          | none => simp [List.getLast?_append, List.getLast?_cons, last, delimiter]
          | some c =>
            simpa [List.getLast?_append, List.getLast?_cons, last] using opened c last
        · rw [prior, lastOr_append, lastOr_cons]
  · rintro ⟨plain, front, back, rfl, opened, closed, prior, next⟩
    -- What stands before and behind the piece is a delimiter or nothing at all.
    have behind : ∀ prior, s = ⟨prior, s.content, back.head?.or after⟩ →
        s ∈ stretches prior (s.content ++ back) after := by
      intro prior same
      cases back with
      | nil =>
        rw [List.append_nil, stretches_of_undelimited plain]
        exact List.mem_singleton.mpr (by simpa using same)
      | cons d back =>
        rw [stretches_append_cons (closed d rfl), stretches_of_undelimited plain]
        exact List.mem_append_left _ (List.mem_singleton.mpr (by simpa using same))
    have same : s = ⟨lastOr before front, s.content, back.head?.or after⟩ := by
      rw [← prior, ← next]
    -- The piece starts the text or stands behind a delimiter.
    cases last : front.getLast? with
    | none =>
      obtain rfl := List.getLast?_eq_none_iff.mp last
      simpa using behind before (by simpa [lastOr] using same)
    | some d =>
      have delimiter := opened d last
      obtain ⟨front, rfl⟩ := List.getLast?_eq_some_iff.mp last
      rw [List.append_assoc, List.append_assoc, List.singleton_append,
        stretches_append_cons delimiter]
      exact List.mem_append_right _ (behind (some d) (by simpa [lastOr] using same))

/-- The stretches of a text spell it. -/
theorem spell_content : spell Stretch.content (stretches before text after) =
    text ++ after.toList := by
  -- The delimiters are the characters behind the stretches.
  induction text using undelimited_induction generalizing before with
  | whole text plain => simp [spell, stretches_of_undelimited plain]
  | parted run d rest plain delimiter ih =>
    rw [stretches_append_cons delimiter, stretches_of_undelimited plain]
    simpa [spell] using ih

/-- The stretches of an edited text are those of what the stretches are edited to. -/
theorem stretches_spell (edit : Stretch → Text) :
    stretches before (spell edit (stretches before text none)) none =
      (stretches before text none).flatMap fun s => stretches s.before (edit s) s.after := by
  induction text using undelimited_induction generalizing before with
  | whole text plain => simp [spell, stretches_of_undelimited plain]
  | parted run d rest plain delimiter ih =>
    rw [stretches_append_cons delimiter, stretches_of_undelimited plain]
    -- The delimiter behind the first stretch stays where it is.
    have parted := @stretches_append_cons before none (edit ⟨before, run, some d⟩)
      (spell edit (stretches (some d) rest none)) d delimiter
    rw [ih] at parted
    simpa [spell] using parted

end TokenGuard
