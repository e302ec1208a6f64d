import TokenGuard.Text.Basic

/-! Sets of texts in byte-wise order. -/

namespace TokenGuard

/-- Texts in order, none of them twice. -/
structure SortedTexts where
  /-- The texts. -/
  elements : List Text
  /-- Every text comes before all that follow it. -/
  sorted : elements.Pairwise (· < ·)
  deriving DecidableEq

namespace SortedTexts

/-- The set without texts. -/
def empty : SortedTexts := ⟨[], by simp⟩

/-- Put a text in its place, unless it is there already. -/
def insertInto (text : Text) : List Text → List Text
  | [] => [text]
  | other :: texts =>
    if text < other then text :: other :: texts
    else if text = other then other :: texts
    else other :: insertInto text texts

/-- Inserting adds the text and nothing else. -/
theorem mem_insertInto {text other : Text} {texts : List Text} :
    other ∈ insertInto text texts ↔ other = text ∨ other ∈ texts := by
  -- Each step keeps the first text or puts the new one before it.
  induction texts with
  | nil => simp [insertInto]
  | cons first texts ih =>
    simp only [insertInto]
    split
    · simp
    · split
      · next same => simp [same]
      · simp [ih, or_left_comm]

/-- Inserting into texts in order leaves them in order. -/
theorem pairwise_insertInto {text : Text} {texts : List Text}
    (sorted : texts.Pairwise (· < ·)) : (insertInto text texts).Pairwise (· < ·) := by
  -- A text that is neither smaller than nor equal to the first one belongs behind it.
  induction texts with
  | nil => simp [insertInto]
  | cons first texts ih =>
    obtain ⟨before, rest⟩ := List.pairwise_cons.mp sorted
    simp only [insertInto]
    split
    · next smaller =>
      refine List.pairwise_cons.mpr ⟨?_, sorted⟩
      intro other member
      rcases List.mem_cons.mp member with rfl | member
      · exact smaller
      · exact List.lt_trans smaller (before other member)
    · split
      · exact sorted
      · next notSmaller different =>
        refine List.pairwise_cons.mpr ⟨?_, ih rest⟩
        intro other member
        rcases mem_insertInto.mp member with rfl | member
        · rcases List.le_iff_lt_or_eq.mp (List.not_lt.mp notSmaller) with less | same
          · exact less
          · exact absurd same.symm different
        · exact before other member

/-- A set with one more text. -/
def insert (texts : SortedTexts) (text : Text) : SortedTexts :=
  ⟨insertInto text texts.elements, pairwise_insertInto texts.sorted⟩

/-- A set with the texts of a list. -/
def insertAll (texts : SortedTexts) (more : List Text) : SortedTexts := more.foldl insert texts

/-- A set with the texts of a list has these texts and those it had before. -/
theorem mem_insertAll {texts : SortedTexts} {more : List Text} {text : Text} :
    text ∈ (texts.insertAll more).elements ↔ text ∈ texts.elements ∨ text ∈ more := by
  -- Each text of the list is inserted into a set that has those before it.
  induction more generalizing texts with
  | nil => simp [insertAll]
  | cons first more ih =>
    show text ∈ ((texts.insert first).insertAll more).elements ↔ _
    rw [ih, insert, mem_insertInto, List.mem_cons, or_assoc, or_left_comm]

/-- Sets with the same texts are one set, as there is only one order for them. -/
theorem eq_of_mem_iff {left right : SortedTexts}
    (same : ∀ text, text ∈ left.elements ↔ text ∈ right.elements) : left = right := by
  have nodup : ∀ texts : SortedTexts, texts.elements.Nodup := by
    intro texts
    refine texts.sorted.imp ?_
    intro a b before same
    exact List.lt_irrefl a (same ▸ before)
  have perm : left.elements.Perm right.elements :=
    (List.perm_ext_iff_of_nodup (nodup left) (nodup right)).mpr same
  have elements : left.elements = right.elements :=
    perm.eq_of_pairwise (fun a b _ _ ab ba => absurd ba (List.lt_asymm ab)) left.sorted right.sorted
  cases left
  cases right
  cases elements
  rfl

/-- The texts of a list as a set. -/
def ofList (texts : List Text) : SortedTexts := empty.insertAll texts

/-- Whether there is no text. -/
def isEmpty (texts : SortedTexts) : Bool := texts.elements.isEmpty

end SortedTexts

end TokenGuard
