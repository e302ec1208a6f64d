import TokenGuard.Proofs.Text.Rewriting
import TokenGuard.Regex.Program

/-! What an expression matches between two neighbours, and what a program accepts from a place: an
expression is compiled to a program that accepts exactly what the expression matches. -/

namespace TokenGuard

namespace Regex

open Text (lastOr lastOr_append)

/-- An expression matches a piece of a text between two neighbours. -/
inductive Matches : Regex → Option Char → Text → Option Char → Prop
  | empty {previous next : Option Char} : Matches empty previous [] next
  | one {set : CharSet} {c : Char} {previous next : Option Char} (inSet : set c = true) :
      Matches (one set) previous [c] next
  | look {assertion : Assertion} {previous next : Option Char}
      (holds : assertion.holds previous next = true) : Matches (look assertion) previous [] next
  /-- What comes behind the first piece starts with the second one. -/
  | sequence {first second : Regex} {previous next : Option Char} {front back : Text}
      (former : Matches first previous front (back.head?.or next))
      (latter : Matches second (lastOr previous front) back next) :
      Matches (sequence first second) previous (front ++ back) next
  | left {first second : Regex} {previous next : Option Char} {piece : Text}
      (matched : Matches first previous piece next) :
      Matches (choice first second) previous piece next
  | right {first second : Regex} {previous next : Option Char} {piece : Text}
      (matched : Matches second previous piece next) :
      Matches (choice first second) previous piece next
  | once {greedy : Bool} {body : Regex} {previous next : Option Char} {piece : Text}
      (matched : Matches body previous piece next) :
      Matches (plus greedy body) previous piece next
  | again {greedy : Bool} {body : Regex} {previous next : Option Char} {front back : Text}
      (former : Matches body previous front (back.head?.or next))
      (latter : Matches (plus greedy body) (lastOr previous front) back next) :
      Matches (plus greedy body) previous (front ++ back) next

/-- From a place some number of steps lead to acceptance and take a piece of a text that stands
between two neighbours. -/
inductive Accepts (code : Array Instruction) :
    Nat → Nat → Option Char → Text → Option Char → Prop
  | accept {place : Nat} {previous next : Option Char} (here : code[place]? = some .accept) :
      Accepts code 0 place previous [] next
  | take {steps place after : Nat} {set : CharSet} {previous next : Option Char} {c : Char}
      {piece : Text} (here : code[place]? = some (.take set after)) (inSet : set c = true)
      (rest : Accepts code steps after (some c) piece next) :
      Accepts code (steps + 1) place previous (c :: piece) next
  | check {steps place after : Nat} {assertion : Assertion} {previous next : Option Char}
      {piece : Text} (here : code[place]? = some (.check assertion after))
      (holds : assertion.holds previous (piece.head?.or next) = true)
      (rest : Accepts code steps after previous piece next) :
      Accepts code (steps + 1) place previous piece next
  | first {steps place left right : Nat} {previous next : Option Char} {piece : Text}
      (here : code[place]? = some (.split left right))
      (rest : Accepts code steps left previous piece next) :
      Accepts code (steps + 1) place previous piece next
  | second {steps place left right : Nat} {previous next : Option Char} {piece : Text}
      (here : code[place]? = some (.split left right))
      (rest : Accepts code steps right previous piece next) :
      Accepts code (steps + 1) place previous piece next

/-- A program matches what it accepts from its entry. -/
def Program.Matches (program : Program) (previous : Option Char) (piece : Text)
    (next : Option Char) : Prop :=
  ∃ steps, Accepts program.code steps program.entry previous piece next

variable {regex : Regex} {code : Array Instruction}
  {place steps next left right after : Nat} {set : CharSet} {assertion : Assertion}
  {previous behind : Option Char} {piece text taken rest : Text}

section Inversion

/-- At an instruction that accepts, nothing more is taken. -/
theorem accepts_accept_iff (here : code[place]? = some .accept) :
    Accepts code steps place previous piece behind ↔ steps = 0 ∧ piece = [] := by
  constructor
  · intro accepted
    cases accepted <;> simp_all
  · rintro ⟨rfl, rfl⟩
    exact .accept here

/-- At an instruction that takes a character, one of its set comes first. -/
theorem accepts_take_iff (here : code[place]? = some (.take set after)) :
    Accepts code steps place previous piece behind ↔ ∃ fewer c rest, steps = fewer + 1 ∧
      piece = c :: rest ∧ set c = true ∧ Accepts code fewer after (some c) rest behind := by
  constructor
  · intro accepted
    cases accepted with
    | take there inSet rest =>
      obtain ⟨rfl, rfl⟩ := Instruction.take.inj (Option.some.inj (there.symm.trans here))
      exact ⟨_, _, _, rfl, rfl, inSet, rest⟩
    | _ there => cases there.symm.trans here
  · rintro ⟨fewer, c, rest, rfl, rfl, inSet, accepted⟩
    exact .take here inSet accepted

/-- At a condition, it holds where it is asked for. -/
theorem accepts_check_iff (here : code[place]? = some (.check assertion after)) :
    Accepts code steps place previous piece behind ↔ ∃ fewer, steps = fewer + 1 ∧
      assertion.holds previous (piece.head?.or behind) = true ∧
      Accepts code fewer after previous piece behind := by
  constructor
  · intro accepted
    cases accepted with
    | check there holds rest =>
      obtain ⟨rfl, rfl⟩ := Instruction.check.inj (Option.some.inj (there.symm.trans here))
      exact ⟨_, rfl, holds, rest⟩
    | _ there => cases there.symm.trans here
  · rintro ⟨fewer, rfl, holds, accepted⟩
    exact .check here holds accepted

/-- At a fork, one of two places leads on. -/
theorem accepts_split_iff (here : code[place]? = some (.split left right)) :
    Accepts code steps place previous piece behind ↔ ∃ fewer, steps = fewer + 1 ∧
      (Accepts code fewer left previous piece behind ∨
        Accepts code fewer right previous piece behind) := by
  constructor
  · intro accepted
    cases accepted with
    | first there rest =>
      obtain ⟨rfl, rfl⟩ := Instruction.split.inj (Option.some.inj (there.symm.trans here))
      exact ⟨_, rfl, .inl rest⟩
    | second there rest =>
      obtain ⟨rfl, rfl⟩ := Instruction.split.inj (Option.some.inj (there.symm.trans here))
      exact ⟨_, rfl, .inr rest⟩
    | _ there => cases there.symm.trans here
  · rintro ⟨fewer, rfl, accepted | accepted⟩
    · exact .first here accepted
    · exact .second here accepted

end Inversion

/-- The instructions of an expression, entered at one place, lead to another one. -/
def Placed (code : Array Instruction) : Regex → Nat → Nat → Prop
  | empty, entry, next => entry = next
  | one set, entry, next => code[entry]? = some (.take set next)
  | look assertion, entry, next => code[entry]? = some (.check assertion next)
  | sequence first second, entry, next =>
    ∃ middle, Placed code first entry middle ∧ Placed code second middle next
  | choice first second, entry, next => ∃ left right, code[entry]? = some (.split left right) ∧
    Placed code first left next ∧ Placed code second right next
  | plus greedy body, entry, next => ∃ decision, Placed code body entry decision ∧
    code[decision]? = some (if greedy then .split entry next else .split next entry)

section Placing

/-- Placing an expression puts instructions behind those that were there and keeps these. -/
theorem placeBefore_keeps (regex : Regex) (next : Nat) (code : Array Instruction) :
    code.size ≤ (regex.placeBefore next code).code.size ∧
      ∀ i < code.size, (regex.placeBefore next code).code[i]? = code[i]? := by
  -- Every part is put behind what is there, and a repetition only changes its own decision.
  induction regex generalizing next code with
  | empty => exact ⟨Nat.le_refl _, fun _ _ => rfl⟩
  | one set =>
    exact ⟨by simp [placeBefore, startWith], fun i within => by
      simp [placeBefore, startWith, Array.getElem?_push, Nat.ne_of_lt within]⟩
  | look assertion =>
    exact ⟨by simp [placeBefore, startWith], fun i within => by
      simp [placeBefore, startWith, Array.getElem?_push, Nat.ne_of_lt within]⟩
  | sequence first second ihFirst ihSecond =>
    obtain ⟨grows, keeps⟩ := ihSecond next code
    obtain ⟨grows', keeps'⟩ :=
      ihFirst (second.placeBefore next code).entry (second.placeBefore next code).code
    exact ⟨Nat.le_trans grows grows', fun i within =>
      (keeps' i (Nat.lt_of_lt_of_le within grows)).trans (keeps i within)⟩
  | choice first second ihFirst ihSecond =>
    obtain ⟨grows, keeps⟩ := ihFirst next code
    obtain ⟨grows', keeps'⟩ := ihSecond next (first.placeBefore next code).code
    refine ⟨?_, fun i within => ?_⟩
    · simp only [placeBefore, startWith, Array.size_push]
      omega
    · have other : i ≠ (second.placeBefore next (first.placeBefore next code).code).code.size := by
        omega
      simp only [placeBefore, startWith, Array.getElem?_push, if_neg other]
      exact (keeps' i (Nat.lt_of_lt_of_le within grows)).trans (keeps i within)
  | plus greedy body ih =>
    obtain ⟨grows, keeps⟩ := ih code.size (code.push (.split next next))
    rw [Array.size_push] at grows keeps
    refine ⟨?_, fun i within => ?_⟩
    · simp only [placeBefore, Array.size_setIfInBounds]
      omega
    · simp only [placeBefore, Array.getElem?_setIfInBounds_ne (Nat.ne_of_gt within)]
      rw [keeps i (by omega), Array.getElem?_push, if_neg (by omega)]

/-- An array that has the instructions of a placed expression leads from its entry to what it was
placed before. -/
theorem placed_placeBefore (regex : Regex) (next : Nat) (code full : Array Instruction)
    (agrees : ∀ i, code.size ≤ i → i < (regex.placeBefore next code).code.size →
      full[i]? = (regex.placeBefore next code).code[i]?) :
    Placed full regex (regex.placeBefore next code).entry next := by
  -- The instructions of a part are not changed by those that are put behind them.
  induction regex generalizing next code with
  | empty => rfl
  | one set =>
    rw [Placed, placeBefore, startWith, agrees _ (Nat.le_refl _) (by simp [placeBefore, startWith])]
    simp [placeBefore, startWith]
  | look assertion =>
    rw [Placed, placeBefore, startWith, agrees _ (Nat.le_refl _) (by simp [placeBefore, startWith])]
    simp [placeBefore, startWith]
  | sequence first second ihFirst ihSecond =>
    obtain ⟨grows, -⟩ := placeBefore_keeps second next code
    obtain ⟨grows', keeps'⟩ := placeBefore_keeps first
      (second.placeBefore next code).entry (second.placeBefore next code).code
    refine ⟨_, ihFirst _ _ fun i from' within => agrees i (Nat.le_trans grows from') within,
      ihSecond _ _ fun i from' within => ?_⟩
    rw [agrees i from' (Nat.lt_of_lt_of_le within grows')]
    exact keeps' i within
  | choice first second ihFirst ihSecond =>
    obtain ⟨grows, -⟩ := placeBefore_keeps first next code
    obtain ⟨grows', keeps'⟩ := placeBefore_keeps second next (first.placeBefore next code).code
    simp only [placeBefore, startWith, Array.size_push, Array.getElem?_push] at agrees
    refine ⟨_, _, ?_, ihFirst next code fun i from' within => ?_,
      ihSecond next (first.placeBefore next code).code fun i from' within => ?_⟩
    · exact (agrees _ (Nat.le_trans grows grows') (Nat.lt_succ_self _)).trans (if_pos rfl)
    · rw [agrees i from' (by omega), if_neg (by omega)]
      exact keeps' i within
    · rw [agrees i (by omega) (by omega), if_neg (by omega)]
  | plus greedy body ih =>
    obtain ⟨grows, keeps⟩ := placeBefore_keeps body code.size (code.push (.split next next))
    simp only [placeBefore, Array.size_setIfInBounds] at agrees
    rw [Array.size_push] at grows
    refine ⟨code.size, ih _ _ fun i from' within => ?_, ?_⟩
    · rw [Array.size_push] at from'
      rw [agrees i (by omega) within, Array.getElem?_setIfInBounds_ne (by omega)]
    · rw [agrees _ (Nat.le_refl _) grows, Array.getElem?_setIfInBounds_self_of_lt grows]
      rfl

end Placing

/-- What is accepted from the entry of an expression starts with a match of it, behind which the
rest is accepted from the place that it leads to. -/
theorem exists_matches_of_accepts {entry : Nat} (placed : Placed code regex entry next)
    (accepted : Accepts code steps entry previous text behind) :
    ∃ taken rest fewer, text = taken ++ rest ∧ fewer ≤ steps ∧
      Matches regex previous taken (rest.head?.or behind) ∧
      Accepts code fewer next (lastOr previous taken) rest behind := by
  induction regex generalizing steps entry next previous text with
  | empty =>
    obtain rfl : entry = next := placed
    exact ⟨[], text, steps, rfl, Nat.le_refl _, .empty, accepted⟩
  | one set =>
    obtain ⟨fewer, c, rest, rfl, rfl, inSet, more⟩ := (accepts_take_iff placed).mp accepted
    exact ⟨[c], rest, fewer, rfl, Nat.le_succ _, .one inSet, more⟩
  | look assertion =>
    obtain ⟨fewer, rfl, holds, more⟩ := (accepts_check_iff placed).mp accepted
    exact ⟨[], text, fewer, rfl, Nat.le_succ _, .look holds, more⟩
  | sequence first second ihFirst ihSecond =>
    obtain ⟨middle, former, latter⟩ := placed
    obtain ⟨front, rest, fewer, rfl, less, matched, more⟩ := ihFirst former accepted
    obtain ⟨back, rest, fewer', rfl, less', matched', more'⟩ := ihSecond latter more
    refine ⟨front ++ back, rest, fewer', by simp, Nat.le_trans less' less, ?_, ?_⟩
    · rw [List.head?_append, Option.or_assoc] at matched
      exact .sequence matched matched'
    · rwa [lastOr_append]
  | choice first second ihFirst ihSecond =>
    obtain ⟨left, right, here, former, latter⟩ := placed
    obtain ⟨fewer, rfl, more | more⟩ := (accepts_split_iff here).mp accepted
    · obtain ⟨taken, rest, fewer', rfl, less, matched, more'⟩ := ihFirst former more
      exact ⟨taken, rest, fewer', rfl, Nat.le_succ_of_le less, .left matched, more'⟩
    · obtain ⟨taken, rest, fewer', rfl, less, matched, more'⟩ := ihSecond latter more
      exact ⟨taken, rest, fewer', rfl, Nat.le_succ_of_le less, .right matched, more'⟩
  | plus greedy body ih =>
    obtain ⟨decision, inner, here⟩ := placed
    -- Every repetition takes a step at least, the one that decides whether to go back.
    induction steps using Nat.strongRecOn generalizing previous text with
    | _ steps again =>
      obtain ⟨front, rest, fewer, rfl, less, matched, more⟩ := ih inner accepted
      have decided : ∃ fewest, fewer = fewest + 1 ∧
          (Accepts code fewest entry (lastOr previous front) rest behind ∨
            Accepts code fewest next (lastOr previous front) rest behind) := by
        cases greedy with
        | true => exact (accepts_split_iff here).mp more
        | false =>
          obtain ⟨fewest, same, more⟩ := (accepts_split_iff here).mp more
          exact ⟨fewest, same, more.symm⟩
      obtain ⟨fewest, rfl, back | on⟩ := decided
      · obtain ⟨taken, rest, last, rfl, less', matched', more'⟩ := again fewest less back
        refine ⟨front ++ taken, rest, last, by simp, by omega, ?_, ?_⟩
        · rw [List.head?_append, Option.or_assoc] at matched
          exact .again matched matched'
        · rwa [lastOr_append]
      · exact ⟨front, rest, fewest, rfl, Nat.le_of_lt less, .once matched, on⟩

/-- A match of an expression is accepted from its entry, if what stands behind it is accepted from
the place that the expression leads to. -/
theorem accepts_of_matches {entry : Nat} {beside : Option Char}
    (matched : Matches regex previous piece beside) (placed : Placed code regex entry next)
    (accepted : Accepts code steps next (lastOr previous piece) rest behind)
    (edge : beside = rest.head?.or behind) :
    ∃ more, Accepts code more entry previous (piece ++ rest) behind := by
  induction matched generalizing steps entry next rest with
  | empty =>
    obtain rfl : entry = next := placed
    exact ⟨steps, accepted⟩
  | one inSet => exact ⟨_, .take placed inSet accepted⟩
  | look holds => exact ⟨_, .check placed (edge ▸ holds) accepted⟩
  | @sequence first second previous beside front back former latter ihFormer ihLatter =>
    obtain ⟨middle, placed, placed'⟩ := placed
    rw [lastOr_append] at accepted
    obtain ⟨more, accepted⟩ := ihLatter placed' accepted edge
    rw [List.append_assoc]
    exact ihFormer placed accepted (by rw [edge, List.head?_append, Option.or_assoc])
  | left matched ih =>
    obtain ⟨left, right, here, placed, -⟩ := placed
    obtain ⟨more, accepted⟩ := ih placed accepted edge
    exact ⟨_, .first here accepted⟩
  | right matched ih =>
    obtain ⟨left, right, here, -, placed⟩ := placed
    obtain ⟨more, accepted⟩ := ih placed accepted edge
    exact ⟨_, .second here accepted⟩
  | @once greedy body previous beside piece matched ih =>
    obtain ⟨decision, placed, here⟩ := placed
    -- The decision goes on.
    cases greedy with
    | true => exact ih placed (.second here accepted) edge
    | false => exact ih placed (.first here accepted) edge
  | @again greedy body previous beside front back former latter ihFormer ihLatter =>
    rw [lastOr_append] at accepted
    obtain ⟨more, accepted⟩ := ihLatter placed accepted edge
    obtain ⟨decision, placed, here⟩ := placed
    rw [List.append_assoc]
    have edge : back.head?.or beside = (back ++ rest).head?.or behind := by
      rw [edge, List.head?_append, Option.or_assoc]
    -- The decision goes back to the entry.
    cases greedy with
    | true => exact ihFormer placed (.first here accepted) edge
    | false => exact ihFormer placed (.second here accepted) edge

/-- A compiled expression matches what the expression matches. -/
theorem matches_compile_iff :
    (compile regex).Matches previous piece behind ↔ Matches regex previous piece behind := by
  -- The expression leads to the one instruction that was there before, which accepts.
  have placed : Placed (compile regex).code regex (compile regex).entry 0 :=
    placed_placeBefore regex 0 _ _ fun _ _ _ => rfl
  have last : (compile regex).code[0]? = some .accept :=
    (placeBefore_keeps regex 0 #[.accept]).2 0 Nat.one_pos
  constructor
  · rintro ⟨steps, accepted⟩
    obtain ⟨taken, rest, fewer, rfl, -, matched, more⟩ := exists_matches_of_accepts placed accepted
    obtain ⟨-, rfl⟩ := (accepts_accept_iff last).mp more
    simpa using matched
  · intro matched
    obtain ⟨more, accepted⟩ := accepts_of_matches matched placed (.accept last) rfl
    exact ⟨more, by simpa using accepted⟩

section Shape

end Shape

end Regex

end TokenGuard
