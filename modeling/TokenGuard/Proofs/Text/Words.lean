import Mathlib.Data.List.DropRight
import TokenGuard.Text.Blank

/-! The words of a text are what stands between its blanks. -/

namespace TokenGuard

namespace Text

variable {text word : Text}

/-- A blank closes the run before it, and reading starts anew behind it. -/
theorem words_go_append_blank {blank : Char} (isBlank : isBlank blank = true)
    (run left right : Text) :
    words.go run (left ++ blank :: right) = words.go run left ++ words.go [] right := by
  -- An earlier blank closes the run on both sides alike.
  induction left generalizing run with
  | nil => simp [words.go, isBlank]
  | cons c left ih =>
    simp only [List.cons_append, words.go]
    split <;> simp [ih]

/-- The words of two texts with a blank between them are those of both. -/
theorem words_append_blank {blank : Char} (isBlank : isBlank blank = true) (left right : Text) :
    words (left ++ blank :: right) = words left ++ words right :=
  words_go_append_blank isBlank [] left right

/-- Reading characters that are no blanks makes the run longer. -/
theorem words_go_of_unblank {run : Text} (unblank : ∀ c ∈ word, isBlank c = false) :
    words.go run word = words.close (word.reverse ++ run) := by
  induction word generalizing run with
  | nil => simp [words.go]
  | cons c word ih =>
    simp [words.go, unblank c (by simp), ih fun d member => unblank d (by simp [member])]

/-- A text without blanks is its only word. -/
theorem words_of_unblank (filled : word ≠ []) (unblank : ∀ c ∈ word, isBlank c = false) :
    words word = [word] := by
  simp [words, words_go_of_unblank unblank, words.close, filled]

/-- What stands between blanks or ends of the text is one of its words. -/
theorem mem_words_between {front back : Text} (filled : word ≠ [])
    (unblank : ∀ c ∈ word, isBlank c = false) (opened : front.getLast?.all isBlank = true)
    (closed : back.head?.all isBlank = true) : word ∈ words (front ++ word ++ back) := by
  -- Whether the text ends behind the word or a blank follows, it is closed there.
  have behind : word ∈ words (word ++ back) := by
    cases back with
    | nil => simp [words_of_unblank filled unblank]
    | cons blank back =>
      rw [words_append_blank (by simpa using closed), words_of_unblank filled unblank]
      simp
  -- A blank at the end of the front parts its words from what follows.
  cases front using List.reverseRec with
  | nil => exact behind
  | append_singleton front blank =>
    have split : front ++ [blank] ++ word ++ back = front ++ blank :: (word ++ back) := by simp
    rw [split, words_append_blank (by simpa using opened)]
    exact List.mem_append_right _ behind

/-- Where the characters that are no blanks have been left out, a blank follows. -/
theorem all_head?_dropWhile (text : Text) :
    (text.dropWhile (!isBlank ·)).head?.all isBlank = true := by
  have next := List.head?_dropWhile_not (!isBlank ·) text
  cases found : (text.dropWhile (!isBlank ·)).head? <;> simp_all

/-- A piece without blanks lies in a word, and its neighbours in the word are those in the text
unless they are blanks. -/
theorem exists_word_around (front back : Text) {piece : Text} (filled : piece ≠ [])
    (unblank : ∀ c ∈ piece, isBlank c = false) :
    ∃ left right, left ++ piece ++ right ∈ words (front ++ piece ++ back) ∧
      left.getLast? = front.getLast?.filter (!isBlank ·) ∧
      right.head? = back.head?.filter (!isBlank ·) := by
  -- The word goes on to both sides as far as there is no blank.
  refine ⟨front.rtakeWhile (!isBlank ·), back.takeWhile (!isBlank ·), ?_, ?_, ?_⟩
  · -- Cut at the blanks next to the piece, the text has the word between two such blanks or ends.
    have opening : front.rdropWhile (!isBlank ·) ++ front.rtakeWhile (!isBlank ·) = front :=
      List.rdropWhile_append_rtakeWhile
    have closing : back.takeWhile (!isBlank ·) ++ back.dropWhile (!isBlank ·) = back :=
      List.takeWhile_append_dropWhile
    have parted : front ++ piece ++ back = front.rdropWhile (!isBlank ·) ++
        (front.rtakeWhile (!isBlank ·) ++ piece ++ back.takeWhile (!isBlank ·)) ++
        back.dropWhile (!isBlank ·) := by
      calc front ++ piece ++ back
          = front.rdropWhile (!isBlank ·) ++ front.rtakeWhile (!isBlank ·) ++ piece ++
              (back.takeWhile (!isBlank ·) ++ back.dropWhile (!isBlank ·)) := by
            rw [opening, closing]
        _ = _ := by simp only [List.append_assoc]
    rw [parted]
    refine mem_words_between (by simp [filled]) ?_ ?_ ?_
    · intro c member
      rcases List.mem_append.mp member with member | member
      · rcases List.mem_append.mp member with member | member
        · simpa using List.mem_rtakeWhile_imp member
        · exact unblank c member
      · simpa using List.mem_takeWhile_imp member
    · simpa [List.rdropWhile] using all_head?_dropWhile front.reverse
    · exact all_head?_dropWhile back
  · simp [List.rtakeWhile, List.getLast?_reverse, List.head?_takeWhile]
  · exact List.head?_takeWhile

end Text

end TokenGuard
