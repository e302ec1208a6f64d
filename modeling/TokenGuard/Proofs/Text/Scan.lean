import TokenGuard.Proofs.Text.Rewriting
import TokenGuard.Text.ByteSearch

/-! Replacing between acceptable neighbours is the plain scan that looks at one character after the
other, and so is the search by byte offsets, which ends and never cuts a character in two. -/

namespace TokenGuard

namespace Text

variable {part new text rest : Text} {before after : Neighbour} {previous : Option Char}
  {replaced : Replaced} {c : Char}

/-- Whether a text starts with a part whose two neighbours are acceptable. -/
def startsBounded (part : Text) (before after : Neighbour) (previous : Option Char)
    (text : Text) : Bool :=
  part.isPrefixOf text && before previous && after (text.drop part.length).head?

/-- Looking at the start of a text tells whether the part stands there between its neighbours. -/
theorem startsBounded_iff : startsBounded part before after previous text = true ↔
    StartsBounded part before after previous text := by
  -- What follows the part is the text without as many characters as the part has.
  unfold startsBounded StartsBounded
  rw [Bool.and_eq_true, Bool.and_eq_true, List.isPrefixOf_iff_prefix]
  constructor
  · intro found
    obtain ⟨⟨⟨behind, same⟩, opened⟩, closed⟩ := found
    subst same
    rw [List.drop_left] at closed
    exact ⟨opened, behind, rfl, closed⟩
  · intro found
    obtain ⟨opened, behind, same, closed⟩ := found
    subst same
    rw [List.drop_left]
    exact ⟨⟨⟨behind, rfl⟩, opened⟩, closed⟩

/-- One walk over a text, character by character: where the part stands between acceptable
neighbours it is replaced, and the walk passes over its other characters; everywhere else one
character is copied. -/
def scanBounded (part new : Text) (before after : Neighbour) :
    Option Char → Nat → Text → Replaced
  | _, _, [] => ⟨[], 0⟩
  | _, skip + 1, c :: rest => scanBounded part new before after (some c) skip rest
  | previous, 0, c :: rest =>
    if startsBounded part before after previous (c :: rest) then
      let replaced := scanBounded part new before after (some c) (part.length - 1) rest
      ⟨new ++ replaced.text, replaced.count + 1⟩
    else
      let replaced := scanBounded part new before after (some c) 0 rest
      ⟨c :: replaced.text, replaced.count⟩

/-- Characters that are passed over are those before the place where the scan goes on. -/
theorem scanBounded_append (skipped rest : Text) (previous : Option Char) :
    scanBounded part new before after previous skipped.length (skipped ++ rest) =
      scanBounded part new before after (lastOr previous skipped) 0 rest := by
  induction skipped generalizing previous with
  | nil => rfl
  | cons c skipped ih =>
    show scanBounded part new before after (some c) skipped.length (skipped ++ rest) = _
    rw [ih, lastOr_cons]

/-- The scan replaces as every walk does that replaces exactly between acceptable neighbours. -/
theorem Rewritten.eq_scanBounded (filled : part ≠ [])
    (walk : Rewritten part new before after previous text replaced) :
    scanBounded part new before after previous 0 text = replaced := by
  -- The induction follows the walk, which decides at each character as the scan does.
  induction walk with
  | done => rfl
  | @keep previous c rest replaced other tail ih =>
    have notHere : ¬ startsBounded part before after previous (c :: rest) = true := by
      rw [startsBounded_iff]
      exact other
    rw [scanBounded, if_neg notHere, ih]
  | @swap previous rest replaced opened closed tail ih =>
    have here : startsBounded part before after previous (part ++ rest) = true :=
      startsBounded_iff.mpr ⟨opened, rest, rfl, closed⟩
    -- The part is its first character and those that the scan passes over behind it.
    cases part with
    | nil => exact absurd rfl filled
    | cons c part =>
      rw [List.cons_append] at here ⊢
      rw [scanBounded, if_pos here, List.length_cons, Nat.add_sub_cancel, scanBounded_append,
        ← lastOr_cons previous, ih]

/-- A search without candidates keeps the text. -/
theorem searchBounded_of_none {part : Text} (nowhere : cut? (c :: part) text = none) :
    searchBounded c part new before after previous text = ⟨text, 0⟩ := by
  rw [searchBounded]
  split
  · rfl
  · next found => simp [nowhere] at found

/-- A candidate between acceptable neighbours is replaced, and the search goes on behind it. -/
theorem searchBounded_of_acceptable {part skipped behind : Text}
    (found : cut? (c :: part) text = some (skipped, behind))
    (acceptable : (before (lastOr previous skipped) && after behind.head?) = true) :
    searchBounded c part new before after previous text =
      let replaced := searchBounded c part new before after (lastOr (some c) part) behind
      ⟨skipped ++ new ++ replaced.text, replaced.count + 1⟩ := by
  rw [searchBounded]
  split
  · next nowhere => simp [found] at nowhere
  · next other =>
    obtain ⟨rfl, rfl⟩ : skipped = _ ∧ behind = _ := by simpa [found] using other
    rw [if_pos acceptable]

/-- Of any other candidate the first character is kept, and the search goes on behind that. -/
theorem searchBounded_of_rejected {part skipped behind : Text}
    (found : cut? (c :: part) text = some (skipped, behind))
    (rejected : ¬ (before (lastOr previous skipped) && after behind.head?) = true) :
    searchBounded c part new before after previous text =
      let replaced := searchBounded c part new before after (some c) (part ++ behind)
      ⟨skipped ++ c :: replaced.text, replaced.count⟩ := by
  rw [searchBounded]
  split
  · next nowhere => simp [found] at nowhere
  · next other =>
    obtain ⟨rfl, rfl⟩ : skipped = _ ∧ behind = _ := by simpa [found] using other
    rw [if_neg rejected]

namespace ByteSearch

/-- A search by offsets stands behind `done`, which is accounted for in what has been given out,
and behind `kept`, which is still to be given out; from there on the search from candidate to
candidate completes its result. -/
structure Stands (c : Char) (part new : Text) (before after : Neighbour) (text : Text)
    (state : ByteSearch) (done kept rest : Text) : Prop where
  divided : text = done ++ kept ++ rest
  copied : state.copied = byteSize done
  search : state.search = byteSize (done ++ kept)
  /-- Before the first replacement nothing has been given out. -/
  idle : state.count = 0 → state.out = [] ∧ done = []
  ahead : searchBounded c part new before after none text =
    let replaced := searchBounded c part new before after (lastOr none (done ++ kept)) rest
    ⟨state.out ++ kept ++ replaced.text, state.count + replaced.count⟩

variable {state : ByteSearch} {part done kept skipped behind : Text}

/-- Before its first round a search stands at the start of the text. -/
theorem stands_start : Stands c part new before after text start [] [] text where
  divided := rfl
  copied := rfl
  search := rfl
  idle _ := ⟨rfl, rfl⟩
  ahead := by simp [start, lastOr]

/-- Behind a replaced candidate everything up to its end is accounted for. -/
theorem Stands.replace (stands : Stands c part new before after text state done kept rest)
    (found : cut? (c :: part) rest = some (skipped, behind))
    (acceptable : (before (lastOr (lastOr none (done ++ kept)) skipped) &&
      after behind.head?) = true) :
    Stands c part new before after text
      ⟨state.out ++ (kept ++ skipped) ++ new, byteSize (done ++ kept ++ skipped ++ c :: part),
        byteSize (done ++ kept ++ skipped ++ c :: part), state.count + 1⟩
      (done ++ kept ++ skipped ++ c :: part) [] behind where
  divided := by
    -- The text is cut once more, around the candidate.
    rw [stands.divided, eq_of_cut? found]
    simp only [List.append_assoc, List.append_nil]
  copied := rfl
  search := by rw [List.append_nil]
  idle none := by simp at none
  ahead := by
    -- What comes before the rest is now the last character of the part.
    have last : lastOr none (done ++ kept ++ skipped ++ c :: part ++ []) = lastOr (some c) part := by
      rw [List.append_nil, lastOr_append, lastOr_cons]
    rw [stands.ahead, searchBounded_of_acceptable found acceptable, last, Replaced.mk.injEq]
    refine ⟨?_, ?_⟩
    · simp only [List.append_assoc, List.append_nil]
    · show state.count + (_ + 1) = state.count + 1 + _
      omega

/-- Behind the first character of a rejected candidate nothing more is accounted for. -/
theorem Stands.pass (stands : Stands c part new before after text state done kept rest)
    (found : cut? (c :: part) rest = some (skipped, behind))
    (rejected : ¬ (before (lastOr (lastOr none (done ++ kept)) skipped) &&
      after behind.head?) = true) :
    Stands c part new before after text
      { state with search := byteSize (done ++ kept ++ skipped) + c.utf8Size }
      done (kept ++ skipped ++ [c]) (part ++ behind) where
  divided := by
    rw [stands.divided, eq_of_cut? found]
    simp only [List.append_assoc, List.cons_append, List.nil_append]
  copied := stands.copied
  search := by
    show byteSize (done ++ kept ++ skipped) + byteSize [c] = _
    rw [← byteSize_append]
    simp only [List.append_assoc]
  idle := stands.idle
  ahead := by
    -- What comes before the rest is now the first character of the candidate.
    have last : lastOr none (done ++ (kept ++ skipped ++ [c])) = some c := by simp [lastOr]
    rw [stands.ahead, searchBounded_of_rejected found rejected, last, Replaced.mk.injEq]
    refine ⟨?_, rfl⟩
    simp only [List.append_assoc, List.singleton_append]

/-- A round does not fail: either there is no candidate left, or the search stands further on in
the text. -/
theorem Stands.step (stands : Stands c part new before after text state done kept rest) :
    (cut? (c :: part) rest = none ∧ step c part new before after text state = some none) ∨
    ∃ next done' kept' rest', step c part new before after text state = some (some next) ∧
      Stands c part new before after text next done' kept' rest' := by
  -- Every offset of the round is that of a place between two of the pieces of the text.
  have first : splitBytes? state.search text = some (done ++ kept, rest) := by
    rw [stands.search, stands.divided, splitBytes?_append]
  cases found : cut? (c :: part) rest with
  | none =>
    refine .inl ⟨rfl, ?_⟩
    simp only [ByteSearch.step, first, Option.bind_eq_bind, Option.bind_some, found]
    rfl
  | some sides =>
    obtain ⟨skipped, behind⟩ := sides
    have divided : text = done ++ kept ++ skipped ++ (c :: part ++ behind) := by
      rw [stands.divided, eq_of_cut? found]
      simp only [List.append_assoc]
    have start : state.search + byteSize skipped = byteSize (done ++ kept ++ skipped) := by
      rw [stands.search, byteSize_append (done ++ kept)]
    have stop : byteSize (done ++ kept ++ skipped) + byteSize (c :: part) =
        byteSize (done ++ kept ++ skipped ++ c :: part) := (byteSize_append _ _).symm
    have second : splitBytes? (byteSize (done ++ kept ++ skipped)) text =
        some (done ++ kept ++ skipped, c :: part ++ behind) := by
      rw [divided, splitBytes?_append]
    have third : splitBytes? (byteSize (done ++ kept ++ skipped ++ c :: part)) text =
        some (done ++ kept ++ skipped ++ c :: part, behind) := by
      rw [divided, ← List.append_assoc, splitBytes?_append]
    have fourth : slice? state.copied (byteSize (done ++ kept ++ skipped)) text =
        some (kept ++ skipped) := by
      rw [divided, stands.copied, List.append_assoc done kept skipped, slice?_append]
    have previous : (done ++ kept ++ skipped).getLast? =
        lastOr (lastOr none (done ++ kept)) skipped := by
      rw [← lastOr_append, lastOr, Option.or_none]
    right
    by_cases acceptable :
        (before (lastOr (lastOr none (done ++ kept)) skipped) && after behind.head?) = true
    · refine ⟨_, _, _, _, ?_, stands.replace found acceptable⟩
      simp only [ByteSearch.step, first, Option.bind_eq_bind, Option.bind_some, found, start,
        stop, second, third, previous, if_pos acceptable, fourth]
      rfl
    · refine ⟨_, _, _, _, ?_, stands.pass found acceptable⟩
      simp only [ByteSearch.step, first, Option.bind_eq_bind, Option.bind_some, found, start,
        stop, second, third, previous, if_neg acceptable]
      rfl

/-- The rounds end at a place behind which there is no candidate. -/
theorem Stands.run (stands : Stands c part new before after text state done kept rest) :
    ∃ final done' kept' rest', run c part new before after text state = some final ∧
      Stands c part new before after text final done' kept' rest' ∧
      cut? (c :: part) rest' = none := by
  fun_induction ByteSearch.run c part new before after text state generalizing done kept rest with
  | case1 state failed =>
    -- No round fails.
    rcases stands.step with ⟨-, round⟩ | ⟨next, _, _, _, round, -⟩
    · simp [failed] at round
    · simp [failed] at round
  | case2 state ended =>
    rcases stands.step with ⟨nowhere, -⟩ | ⟨next, _, _, _, round, -⟩
    · exact ⟨state, done, kept, rest, rfl, stands, nowhere⟩
    · simp [ended] at round
  | case3 state next round ih =>
    rcases stands.step with ⟨-, ended⟩ | ⟨other, done', kept', rest', same, further⟩
    · simp [round] at ended
    · obtain rfl : next = other := by simpa [round] using same
      exact ih further

end ByteSearch

/-- The search by offsets gives a result, which is that of the search from candidate to
candidate. -/
theorem replaceByOffsets?_eq (text part new : Text) (before after : Neighbour) :
    text.replaceByOffsets? part new before after =
      some (text.replaceBounded part new before after) := by
  cases part with
  | nil => rfl
  | cons c part =>
    have start : ByteSearch.Stands c part new before after text .start [] [] text :=
      ByteSearch.stands_start
    obtain ⟨final, done, kept, rest, ended, stands, nowhere⟩ := start.run
    -- Behind the last replacement the text stays as it is.
    have whole : searchBounded c part new before after none text =
        ⟨final.out ++ kept ++ rest, final.count⟩ := by
      rw [stands.ahead, searchBounded_of_none nowhere]
      rfl
    show replaceByOffsets? text (c :: part) new before after =
      some (searchBounded c part new before after none text)
    rw [whole, replaceByOffsets?, ended, Option.bind_eq_bind, Option.bind_some]
    by_cases none : final.count = 0
    · obtain ⟨nothing, start⟩ := stands.idle none
      rw [if_pos none, none, nothing, stands.divided, start]
      rfl
    · have tail : splitBytes? final.copied text = some (done, kept ++ rest) := by
        rw [stands.copied, stands.divided, List.append_assoc, splitBytes?_append]
      rw [if_neg none, tail, List.append_assoc]
      rfl

/-- Replacing between acceptable neighbours is the plain scan of the text, and so is the search by
byte offsets, which ends and finds all its offsets between characters. -/
theorem replaceBounded_eq_scan (filled : part ≠ []) (new text : Text) (before after : Neighbour) :
    text.replaceBounded part new before after =
        scanBounded part new before after none 0 text ∧
      text.replaceByOffsets? part new before after =
        some (scanBounded part new before after none 0 text) := by
  -- Both are the one walk that replaces exactly between acceptable neighbours.
  have walked : scanBounded part new before after none 0 text =
      text.replaceBounded part new before after :=
    (rewritten_replaceBounded filled new text before after).eq_scanBounded filled
  rw [walked]
  exact ⟨rfl, replaceByOffsets?_eq text part new before after⟩

/-- In a text with characters of two and three bytes, the occurrence at the start has no neighbour
before it, the one that overlaps with it has both, and so has the last one. -/
theorem replaceBounded_eq_scan_overlapping : ("éé".toList : Text) ≠ [] ∧
    Text.replaceBounded "éééñéé€" "éé" "x" Option.isSome Option.isSome = ⟨"éxñx€", 2⟩ ∧
    Text.replaceByOffsets? "éééñéé€" "éé" "x" Option.isSome Option.isSome =
      some ⟨"éxñx€", 2⟩ := by
  have filled : ("éé".toList : Text) ≠ [] := by decide
  have scanned : scanBounded "éé" "x" Option.isSome Option.isSome none 0 "éééñéé€" =
      ⟨"éxñx€", 2⟩ := by decide
  obtain ⟨jumped, byOffsets⟩ :=
    replaceBounded_eq_scan filled "x" "éééñéé€" Option.isSome Option.isSome
  exact ⟨filled, jumped.trans scanned, byOffsets.trans (congrArg some scanned)⟩

end Text

end TokenGuard
