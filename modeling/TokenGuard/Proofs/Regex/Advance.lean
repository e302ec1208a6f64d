import TokenGuard.Proofs.Regex.Match

/-! Following ways through a program at one position: no way is made up, none is lost that would
lead to a match, and the order of preference is kept. -/

namespace TokenGuard.Regex.Program

variable {program : Program} {previous next : Option Char} {text : Text} {fuel steps start : Nat}
  {ways more waiting waiting' : List Way} {way : Way} {visited : Array Bool}

/-- An instruction that takes no character leads from one place to another. -/
inductive Leads (program : Program) (previous next : Option Char) : Nat → Nat → Prop
  | check {place after : Nat} {assertion : Assertion}
      (here : program.code[place]? = some (.check assertion after))
      (holds : assertion.holds previous next = true) : Leads program previous next place after
  | first {place left right : Nat} (here : program.code[place]? = some (.split left right)) :
      Leads program previous next place left
  | second {place left right : Nat} (here : program.code[place]? = some (.split left right)) :
      Leads program previous next place right

/-- A way waits for a character. -/
def Waits (program : Program) (way : Way) : Prop :=
  ∃ set after, program.code[way.place]? = some (.take set after)

/-- From a place some number of steps lead to acceptance and take what a text starts with. -/
def Finishes (program : Program) (steps place : Nat) (previous : Option Char) (text : Text) :
    Prop :=
  ∃ taken rest, text = taken ++ rest ∧ Accepts program.code steps place previous taken rest.head?

section Finishing

variable {place after left right : Nat} {set : CharSet} {assertion : Assertion}

/-- A way that waits finishes behind a character that it takes. -/
theorem exists_of_finishes_take (here : program.code[place]? = some (.take set after))
    (finishes : program.Finishes steps place previous text) :
    ∃ fewer c rest, text = c :: rest ∧ set c = true ∧
      program.Finishes fewer after (some c) rest := by
  obtain ⟨taken, rest, rfl, accepted⟩ := finishes
  obtain ⟨fewer, c, taken, -, rfl, inSet, more⟩ := (accepts_take_iff here).mp accepted
  exact ⟨fewer, c, taken ++ rest, rfl, inSet, taken, rest, rfl, more⟩

/-- A way at a condition finishes behind it, and the condition holds. -/
theorem exists_of_finishes_check (here : program.code[place]? = some (.check assertion after))
    (finishes : program.Finishes steps place previous text) :
    ∃ fewer < steps, assertion.holds previous text.head? = true ∧
      program.Finishes fewer after previous text := by
  obtain ⟨taken, rest, rfl, accepted⟩ := finishes
  obtain ⟨fewer, rfl, holds, more⟩ := (accepts_check_iff here).mp accepted
  exact ⟨fewer, Nat.lt_succ_self _, List.head?_append ▸ holds, taken, rest, rfl, more⟩

/-- A way at a fork finishes on one of its two sides. -/
theorem exists_of_finishes_split (here : program.code[place]? = some (.split left right))
    (finishes : program.Finishes steps place previous text) :
    ∃ fewer < steps, program.Finishes fewer left previous text ∨
      program.Finishes fewer right previous text := by
  obtain ⟨taken, rest, rfl, accepted⟩ := finishes
  obtain ⟨fewer, rfl, more⟩ := (accepts_split_iff here).mp accepted
  exact ⟨fewer, Nat.lt_succ_self _,
    more.imp (fun more => ⟨taken, rest, rfl, more⟩) fun more => ⟨taken, rest, rfl, more⟩⟩

/-- A way finishes only at an instruction. -/
theorem exists_instruction_of_finishes (finishes : program.Finishes steps place previous text) :
    ∃ instruction, program.code[place]? = some instruction := by
  obtain ⟨taken, rest, rfl, accepted⟩ := finishes
  cases accepted with
  | _ here => exact ⟨_, here⟩

end Finishing

/-- Following ways makes up none: what holds of all ways and passes from one place to the next
holds of those that wait and of one that has come to acceptance. -/
theorem advance_sound {good : Way → Prop}
    (passes : ∀ way after, good way → program.Leads previous next way.place after →
      good { way with place := after })
    (goodWays : ∀ way ∈ ways, good way)
    (goodWaiting : ∀ way ∈ waiting, good way ∧ program.Waits way) :
    (∀ way ∈ (program.advance previous next fuel ways visited waiting).waiting,
      good way ∧ program.Waits way) ∧
    ∀ start, (program.advance previous next fuel ways visited waiting).matched = some start →
      ∃ way, good way ∧ way.start = start ∧ program.code[way.place]? = some .accept := by
  fun_induction program.advance previous next fuel ways visited waiting with
  | case1 | case2 => exact ⟨goodWaiting, fun _ matched => nomatch matched⟩
  | case3 _ way ways _ _ _ ih => exact ih (List.forall_mem_cons.mp goodWays).2 goodWaiting
  | case4 _ way ways _ _ _ _ _ _ here ih =>
    obtain ⟨ofWay, goodWays⟩ := List.forall_mem_cons.mp goodWays
    exact ih goodWays (List.forall_mem_cons.mpr ⟨⟨ofWay, _, _, here⟩, goodWaiting⟩)
  | case5 _ way ways _ _ _ _ assertion after here led ih =>
    obtain ⟨ofWay, goodWays⟩ := List.forall_mem_cons.mp goodWays
    refine ih ?_ goodWaiting
    simp only [led]
    split
    · next holds => exact List.forall_mem_cons.mpr ⟨passes _ _ ofWay (.check here holds), goodWays⟩
    · exact goodWays
  | case6 _ way ways _ _ _ _ left right here _ ih =>
    obtain ⟨ofWay, goodWays⟩ := List.forall_mem_cons.mp goodWays
    exact ih (List.forall_mem_cons.mpr ⟨passes _ _ ofWay (.first here),
      List.forall_mem_cons.mpr ⟨passes _ _ ofWay (.second here), goodWays⟩⟩) goodWaiting
  | case7 _ way ways _ _ _ here =>
    refine ⟨goodWaiting, fun start matched => ⟨way, ?_, Option.some.inj matched, here⟩⟩
    exact goodWays way List.mem_cons_self
  | case8 _ way ways _ _ _ _ _ ih => exact ih (List.forall_mem_cons.mp goodWays).2 goodWaiting

/-- Ways in an order in which none started after the next one. -/
def Ranked (ways : List Way) : Prop := ways.Pairwise fun way later => way.start ≤ later.start

/-- Ways stay ranked when ways with the same start take the place of one of them. -/
theorem Ranked.replace (ranked : Ranked (waiting ++ way :: ways)) (more : List Way)
    (same : ∀ led ∈ more, led.start = way.start) : Ranked (waiting ++ (more ++ ways)) := by
  obtain ⟨former, latter, across⟩ := List.pairwise_append.mp ranked
  obtain ⟨first, latter⟩ := List.pairwise_cons.mp latter
  refine List.pairwise_append.mpr ⟨former, List.pairwise_append.mpr ⟨?_, latter, ?_⟩, ?_⟩
  · exact List.pairwise_of_forall_mem_list fun led member led' member' =>
      Nat.le_of_eq ((same led member).trans (same led' member').symm)
  · intro led member other behind
    exact same led member ▸ first other behind
  · intro other before led member
    rcases List.mem_append.mp member with isLed | behind
    · exact same led isLed ▸ across other before way List.mem_cons_self
    · exact across other before led (List.mem_cons_of_mem _ behind)

/-- The ways that wait stay ranked, and none of them started behind a match. -/
theorem advance_ranked (ranked : Ranked (waiting.reverse ++ ways)) :
    Ranked (program.advance previous next fuel ways visited waiting).waiting.reverse ∧
      ∀ start, (program.advance previous next fuel ways visited waiting).matched = some start →
        ∀ way ∈ (program.advance previous next fuel ways visited waiting).waiting,
          way.start ≤ start := by
  fun_induction program.advance previous next fuel ways visited waiting with
  | case1 | case2 =>
    exact ⟨(List.pairwise_append.mp ranked).1, fun _ matched => nomatch matched⟩
  | case3 _ way ways _ _ _ ih | case8 _ way ways _ _ _ _ _ ih =>
    exact ih (ranked.replace [] (by simp))
  | case4 _ way ways _ _ _ _ _ _ _ ih => exact ih (by simpa using ranked)
  | case5 _ way ways _ _ _ _ _ after _ led ih =>
    refine ih ?_
    simp only [led]
    split
    · exact ranked.replace [{ way with place := after }] (by simp)
    · exact ranked.replace [] (by simp)
  | case6 _ way ways _ _ _ _ left right _ _ ih =>
    exact ih (ranked.replace [{ way with place := left }, { way with place := right }] (by simp))
  | case7 _ way ways _ _ _ _ =>
    obtain ⟨former, -, across⟩ := List.pairwise_append.mp ranked
    refine ⟨former, fun start matched other member => ?_⟩
    obtain rfl := Option.some.inj matched
    exact across other (List.mem_reverse.mpr member) way List.mem_cons_self

section Completeness

/-- A way that waits, or one to be followed that finishes in fewer steps, started no later. -/
def Covered (program : Program) (previous : Option Char) (text : Text) (waiting ways : List Way)
    (steps start : Nat) : Prop :=
  (∃ way ∈ waiting, way.start ≤ start ∧
    ∃ fewer ≤ steps, program.Finishes fewer way.place previous text) ∨
  ∃ way ∈ ways, way.start ≤ start ∧
    ∃ fewer < steps, program.Finishes fewer way.place previous text

/-- What finishes from a visited place is covered, for the start of the way that visited it, which
is not behind those of the ways to be followed. -/
def Settled (program : Program) (previous : Option Char) (text : Text) (visited : Array Bool)
    (waiting ways : List Way) : Prop :=
  ∀ place, visited.getD place true = true → ∃ start, (∀ way ∈ ways, start ≤ way.start) ∧
    ∀ steps, program.Finishes steps place previous text →
      program.Covered previous text waiting ways steps start

/-- More steps and a later start are covered as well. -/
theorem Covered.mono {steps' start' : Nat}
    (covered : program.Covered previous text waiting ways steps start)
    (more : steps ≤ steps') (later : start ≤ start') :
    program.Covered previous text waiting ways steps' start' := by
  rcases covered with ⟨way, member, early, fewer, less, finishes⟩ |
    ⟨way, member, early, fewer, less, finishes⟩
  · exact .inl ⟨way, member, Nat.le_trans early later, fewer, Nat.le_trans less more, finishes⟩
  · exact .inr ⟨way, member, Nat.le_trans early later, fewer, Nat.lt_of_lt_of_le less more,
      finishes⟩

/-- A way need not be followed at a place that was visited before. -/
theorem Settled.drop (settled : program.Settled previous text visited waiting (way :: ways))
    (before : visited.getD way.place true = true)
    (covered : program.Covered previous text waiting (way :: ways) steps start) :
    program.Covered previous text waiting ways steps start := by
  -- What the way covers is covered from its place already, by something that finishes earlier.
  induction steps using Nat.strongRecOn generalizing start with
  | _ steps ih =>
    rcases covered with waits | ⟨other, member, early, fewer, less, finishes⟩
    · exact .inl waits
    · rcases List.mem_cons.mp member with rfl | behind
      · obtain ⟨first, notBehind, covers⟩ := settled _ before
        exact (ih fewer less (covers fewer finishes)).mono (Nat.le_of_lt less)
          (Nat.le_trans (notBehind _ List.mem_cons_self) early)
      · exact .inr ⟨other, behind, early, fewer, less, finishes⟩

/-- A way that is followed is covered by the ways that take its place. -/
theorem Covered.follow (keeps : ∀ other ∈ waiting, other ∈ waiting')
    (covers : ∀ steps, program.Finishes steps way.place previous text →
      program.Covered previous text waiting' (more ++ ways) steps way.start)
    (covered : program.Covered previous text waiting (way :: ways) steps start) :
    program.Covered previous text waiting' (more ++ ways) steps start := by
  rcases covered with ⟨other, member, early, finishes⟩ |
    ⟨other, member, early, fewer, less, finishes⟩
  · exact .inl ⟨other, keeps other member, early, finishes⟩
  · rcases List.mem_cons.mp member with rfl | behind
    · exact (covers fewer finishes).mono (Nat.le_of_lt less) early
    · exact .inr ⟨other, List.mem_append_right _ behind, early, fewer, less, finishes⟩

/-- Visiting a place leaves one place less to be visited. -/
theorem count_visit {place : Nat} (unvisited : ¬ visited.getD place true = true) :
    (visited.setIfInBounds place true).count false + 1 = visited.count false := by
  have within : place < visited.size := by
    refine Nat.lt_of_not_le fun outside => unvisited ?_
    rw [Array.getD_eq_getD_getElem?, Array.getElem?_eq_none outside, Option.getD_none]
  have here : visited[place] = false := by
    simpa [Array.getD_eq_getD_getElem?, Array.getElem?_eq_getElem within] using unvisited
  have counted : 0 < visited.count false :=
    Array.count_pos_iff.mpr (here ▸ Array.getElem_mem within)
  rw [Array.setIfInBounds_def, dif_pos within, Array.count_set within, here]
  exact Nat.sub_add_cancel counted

/-- What holds whenever a way is followed: what was visited is settled, the ways are ranked, and
there is fuel for them and for two ways from every place that is not visited yet. -/
structure Following (program : Program) (previous : Option Char) (text : Text) (fuel : Nat)
    (ways : List Way) (visited : Array Bool) (waiting : List Way) : Prop where
  settled : program.Settled previous text visited waiting ways
  ranked : Ranked ways
  enough : ways.length + 2 * visited.count false < fuel

/-- A way is dropped at a place that was visited before. -/
theorem Following.drop
    (following : program.Following previous text (fuel + 1) (way :: ways) visited waiting)
    (before : visited.getD way.place true = true) :
    program.Following previous text fuel ways visited waiting where
  settled := by
    intro place isVisited
    obtain ⟨start, notBehind, covers⟩ := following.settled place isVisited
    exact ⟨start, fun other member => notBehind other (List.mem_cons_of_mem _ member),
      fun steps finishes => following.settled.drop before (covers steps finishes)⟩
  ranked := (List.pairwise_cons.mp following.ranked).2
  enough := by
    have enough := following.enough
    rw [List.length_cons] at enough
    omega

/-- A way is followed at a place that is visited for the first time. -/
theorem Following.follow
    (following : program.Following previous text (fuel + 1) (way :: ways) visited waiting)
    (unvisited : ¬ visited.getD way.place true = true)
    (same : ∀ led ∈ more, led.start = way.start) (few : more.length ≤ 2)
    (keeps : ∀ other ∈ waiting, other ∈ waiting')
    (covers : ∀ steps, program.Finishes steps way.place previous text →
      program.Covered previous text waiting' (more ++ ways) steps way.start) :
    program.Following previous text fuel (more ++ ways) (visited.setIfInBounds way.place true)
      waiting' where
  settled := by
    have first := (List.pairwise_cons.mp following.ranked).1
    intro place isVisited
    by_cases here : place = way.place
    · -- The place was visited right now, by the way itself.
      subst here
      refine ⟨way.start, fun other member => ?_, covers⟩
      rcases List.mem_append.mp member with isLed | behind
      · exact Nat.le_of_eq (same other isLed).symm
      · exact first other behind
    · have before : visited.getD place true = true := by
        rwa [Array.getD_eq_getD_getElem?, Array.getElem?_setIfInBounds_ne (Ne.symm here),
          ← Array.getD_eq_getD_getElem?] at isVisited
      obtain ⟨start, notBehind, covered⟩ := following.settled place before
      refine ⟨start, fun other member => ?_, fun steps finishes =>
        (covered steps finishes).follow keeps covers⟩
      rcases List.mem_append.mp member with isLed | behind
      · exact same other isLed ▸ notBehind way List.mem_cons_self
      · exact notBehind other (List.mem_cons_of_mem _ behind)
  ranked := by
    have ranked : Ranked ([] ++ way :: ways) := following.ranked
    exact ranked.replace more same
  enough := by
    have enough := following.enough
    have visit := count_visit unvisited
    rw [List.length_cons] at enough
    rw [List.length_append]
    omega

/-- Following ways loses none: behind what is covered there is a match or a way that waits, which
started no later. -/
theorem advance_complete
    (following : program.Following previous text fuel ways visited waiting)
    (covered : program.Covered previous text waiting ways steps start) :
    (∃ early ≤ start,
      (program.advance previous text.head? fuel ways visited waiting).matched = some early) ∨
    ∃ way ∈ (program.advance previous text.head? fuel ways visited waiting).waiting,
      way.start ≤ start ∧ ∃ steps, program.Finishes steps way.place previous text := by
  generalize isNext : text.head? = next
  have stay : ∀ {waiting : List Way}, ∀ other ∈ waiting, other ∈ waiting := fun _ member => member
  fun_induction program.advance previous next fuel ways visited waiting with
  | case1 => exact absurd following.enough (Nat.not_lt_zero _)
  | case2 =>
    rcases covered with ⟨way, member, early, fewer, -, finishes⟩ | ⟨way, member, -⟩
    · exact .inr ⟨way, member, early, fewer, finishes⟩
    · exact absurd member List.not_mem_nil
  | case3 fuel way ways visited waiting before ih =>
    exact ih (following.drop before) (following.settled.drop before covered)
  | case4 fuel way ways visited waiting unvisited _ set after here ih =>
    -- The way itself waits.
    have covers : ∀ steps, program.Finishes steps way.place previous text →
        program.Covered previous text (way :: waiting) ([] ++ ways) steps way.start :=
      fun steps finishes =>
        .inl ⟨way, List.mem_cons_self, Nat.le_refl _, steps, Nat.le_refl _, finishes⟩
    have keeps : ∀ other ∈ waiting, other ∈ way :: waiting := fun _ => List.mem_cons_of_mem _
    exact ih (following.follow unvisited (by simp) (by simp) keeps covers)
      (covered.follow keeps covers)
  | case5 fuel way ways visited waiting unvisited _ assertion after here led ih =>
    by_cases holds : assertion.holds previous next = true
    · -- The way goes on behind the condition.
      have isLed : led = [{ way with place := after }] ++ ways := if_pos holds
      have covers : ∀ steps, program.Finishes steps way.place previous text →
          program.Covered previous text waiting ([{ way with place := after }] ++ ways) steps
            way.start := by
        intro steps finishes
        obtain ⟨fewer, less, -, finishes⟩ := exists_of_finishes_check here finishes
        exact .inr ⟨_, List.mem_cons_self, Nat.le_refl _, fewer, less, finishes⟩
      rw [isLed] at ih ⊢
      exact ih (following.follow unvisited (by simp) (by simp) stay covers)
        (covered.follow stay covers)
    · -- The way ends here.
      have isLed : led = [] ++ ways := if_neg holds
      have covers : ∀ steps, program.Finishes steps way.place previous text →
          program.Covered previous text waiting ([] ++ ways) steps way.start := by
        intro steps finishes
        obtain ⟨fewer, less, met, finishes⟩ := exists_of_finishes_check here finishes
        exact absurd (isNext ▸ met) holds
      rw [isLed] at ih ⊢
      exact ih (following.follow unvisited (by simp) (by simp) stay covers)
        (covered.follow stay covers)
  | case6 fuel way ways visited waiting unvisited _ left right here _ ih =>
    have covers : ∀ steps, program.Finishes steps way.place previous text →
        program.Covered previous text waiting
          ([{ way with place := left }, { way with place := right }] ++ ways) steps way.start := by
      intro steps finishes
      obtain ⟨fewer, less, finishes | finishes⟩ := exists_of_finishes_split here finishes
      · exact .inr ⟨_, List.mem_cons_self, Nat.le_refl _, fewer, less, finishes⟩
      · exact .inr ⟨_, List.mem_cons_of_mem _ List.mem_cons_self, Nat.le_refl _, fewer, less,
          finishes⟩
    exact ih (following.follow unvisited (by simp) (by simp) stay covers)
      (covered.follow stay covers)
  | case7 fuel way ways visited waiting unvisited here =>
    -- All ways that are left started no earlier than the match.
    rcases covered with ⟨other, member, early, fewer, -, finishes⟩ | ⟨other, member, early, -⟩
    · exact .inr ⟨other, member, early, fewer, finishes⟩
    · refine .inl ⟨way.start, ?_, rfl⟩
      rcases List.mem_cons.mp member with rfl | behind
      · exact early
      · exact Nat.le_trans ((List.pairwise_cons.mp following.ranked).1 other behind) early
  | case8 fuel way ways visited waiting unvisited _ nothing ih =>
    have covers : ∀ steps, program.Finishes steps way.place previous text →
        program.Covered previous text waiting ([] ++ ways) steps way.start := by
      intro steps finishes
      obtain ⟨instruction, here⟩ := exists_instruction_of_finishes finishes
      exact absurd (here.symm.trans nothing) nofun
    exact ih (following.follow unvisited (by simp) (by simp) stay covers)
      (covered.follow stay covers)

end Completeness

end TokenGuard.Regex.Program
