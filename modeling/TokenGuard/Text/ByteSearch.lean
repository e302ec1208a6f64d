import TokenGuard.Text.Replace

/-! Replacing between acceptable neighbours by a search that keeps two byte offsets of the text and
cuts the text at them, where they must be between characters. -/

namespace TokenGuard

namespace Text

/-- Cut a text behind a number of bytes, unless they end inside a character or behind the text. -/
def splitBytes? : Nat → Text → Option (Text × Text)
  | offset, [] => if offset = 0 then some ([], []) else none
  | offset, c :: rest =>
    if offset = 0 then some ([], c :: rest)
    else if c.utf8Size ≤ offset then
      (splitBytes? (offset - c.utf8Size) rest).map fun (front, back) => (c :: front, back)
    else none

/-- The bytes of two texts are those of the one and those of the other. -/
theorem byteSize_append (left right : Text) :
    byteSize (left ++ right) = byteSize left + byteSize right := by
  induction left with
  | nil => exact (Nat.zero_add _).symm
  | cons c left ih =>
    show c.utf8Size + byteSize (left ++ right) = c.utf8Size + byteSize left + byteSize right
    rw [ih, Nat.add_assoc]

/-- A text with a first character has at least one byte. -/
theorem byteSize_cons_pos (c : Char) (rest : Text) : 0 < byteSize (c :: rest) :=
  Nat.add_pos_left c.utf8Size_pos _

/-- In front of a cut there are as many bytes as were asked for. -/
theorem of_splitBytes? {offset : Nat} {text front back : Text}
    (found : splitBytes? offset text = some (front, back)) :
    text = front ++ back ∧ byteSize front = offset := by
  -- Each character in front of the cut takes its bytes from the offset.
  fun_induction splitBytes? offset text generalizing front with
  | case1 => simp_all [byteSize]
  | case2 => simp at found
  | case3 => simp_all [byteSize]
  | case4 offset c rest _ fits ih =>
    obtain ⟨⟨inner, behind⟩, inRest, same⟩ := Option.map_eq_some_iff.mp found
    obtain ⟨rfl, rfl⟩ : c :: inner = front ∧ behind = back := by simpa using same
    obtain ⟨rfl, size⟩ := ih inRest
    refine ⟨rfl, ?_⟩
    show c.utf8Size + byteSize inner = offset
    omega
  | case5 => simp at found

/-- A text is cut between any two of its characters. -/
theorem splitBytes?_append (front back : Text) :
    splitBytes? (byteSize front) (front ++ back) = some (front, back) := by
  induction front with
  | nil => cases back <;> rfl
  | cons c front ih =>
    have filled : byteSize (c :: front) ≠ 0 := Nat.ne_of_gt (byteSize_cons_pos c front)
    have fits : c.utf8Size ≤ byteSize (c :: front) := Nat.le_add_right _ _
    have left : byteSize (c :: front) - c.utf8Size = byteSize front := Nat.add_sub_cancel_left _ _
    rw [List.cons_append, splitBytes?, if_neg filled, if_pos fits, left, ih]
    rfl

/-- The part of a text between two offsets. -/
def slice? (start stop : Nat) (text : Text) : Option Text := do
  let front := (← splitBytes? stop text).1
  return (← splitBytes? start front).2

/-- What stands between two characters is what is between their offsets. -/
theorem slice?_append (front inside back : Text) :
    slice? (byteSize front) (byteSize (front ++ inside)) (front ++ inside ++ back) =
      some inside := by
  rw [slice?, splitBytes?_append]
  show (splitBytes? (byteSize front) (front ++ inside)).bind _ = _
  rw [splitBytes?_append]
  rfl

/-- Where a search by offsets stands. -/
structure ByteSearch where
  /-- What has been given out. -/
  out : Text
  /-- The offset up to which the text has been given out or replaced. -/
  copied : Nat
  /-- The offset from which the search goes on. -/
  search : Nat
  /-- The number of replacements. -/
  count : Nat
  deriving DecidableEq

namespace ByteSearch

/-- The search before its first round. -/
def start : ByteSearch := ⟨[], 0, 0, 0⟩

variable (c : Char) (part new : Text) (before after : Neighbour) (text : Text)

/-- One round: look for the next candidate, and replace it or go on behind its first character.
The round fails at an offset that is not between characters, and it gives `none` if there is no
candidate left. -/
def step (state : ByteSearch) : Option (Option ByteSearch) := do
  let ahead := (← splitBytes? state.search text).2
  match cut? (c :: part) ahead with
  | none => return none
  | some (skipped, _) =>
    let start := state.search + byteSize skipped
    let stop := start + byteSize (c :: part)
    let (front, candidate) ← splitBytes? start text
    let behind := (← splitBytes? stop text).2
    if before front.getLast? && after behind.head? then
      let kept ← slice? state.copied start text
      return some ⟨state.out ++ kept ++ new, stop, stop, state.count + 1⟩
    else
      return some { state with search := start + (candidate.head?.map Char.utf8Size).getD 1 }

variable {c part new before after text}

/-- Every round that is not the last one brings the search forward, and none starts behind the
text. -/
theorem step_forward {state next : ByteSearch}
    (round : step c part new before after text state = some (some next)) :
    state.search ≤ byteSize text ∧ state.search < next.search := by
  -- The candidate has a first character, so its end and its second place are behind its start.
  have filled : 0 < byteSize (c :: part) := byteSize_cons_pos c part
  obtain ⟨⟨front, ahead⟩, found, round⟩ := Option.bind_eq_some_iff.mp round
  obtain ⟨whole, size⟩ := of_splitBytes? found
  refine ⟨by rw [whole, byteSize_append]; omega, ?_⟩
  dsimp only at round
  split at round
  · simp at round
  · obtain ⟨⟨_, candidate⟩, -, round⟩ := Option.bind_eq_some_iff.mp round
    obtain ⟨_, -, round⟩ := Option.bind_eq_some_iff.mp round
    dsimp only at round
    split at round
    · obtain ⟨kept, -, round⟩ := Option.bind_eq_some_iff.mp round
      obtain rfl := Option.some.inj (Option.some.inj round)
      show state.search < state.search + _ + byteSize (c :: part)
      omega
    · obtain rfl := Option.some.inj (Option.some.inj round)
      have character : 0 < (candidate.head?.map Char.utf8Size).getD 1 := by
        cases candidate with
        | nil => exact Nat.one_pos
        | cons first rest => exact first.utf8Size_pos
      show state.search < state.search + _ + (candidate.head?.map Char.utf8Size).getD 1
      omega

/-- Rounds until there is no candidate left; there is no result if a round fails. -/
def run (c : Char) (part new : Text) (before after : Neighbour) (text : Text)
    (state : ByteSearch) : Option ByteSearch :=
  match _round : step c part new before after text state with
  | none => none
  | some none => some state
  | some (some next) => run c part new before after text next
termination_by byteSize text + 1 - state.search
decreasing_by
  -- The search has passed more of the text than before the round.
  have := step_forward _round
  omega

end ByteSearch

/-- Replace the occurrences of a part whose two neighbours are acceptable by a search with
offsets, of which there is no result if one of them is not between characters. -/
def replaceByOffsets? (text part new : Text) (before after : Neighbour) : Option Replaced :=
  match part with
  | [] => some ⟨text, 0⟩
  | c :: part => do
    let final ← ByteSearch.run c part new before after text .start
    if final.count = 0 then return ⟨text, 0⟩
    let tail := (← splitBytes? final.copied text).2
    return ⟨final.out ++ tail, final.count⟩

end Text

end TokenGuard
