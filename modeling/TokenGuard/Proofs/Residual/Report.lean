import TokenGuard.Proofs.Residual.Shape

/-! A detector reports all tokens and nothing else: wherever a token could start there is a
reported one, and the report is in the order in which its tokens first occur. -/

namespace TokenGuard

open Finder

variable {token? : Finder} {isToken : Text → Prop} {text token front rest : Text} {start : Nat}

/-- A token at its place in a text, which is the number of characters before it. -/
structure Occurrence where
  /-- The number of characters before the token. -/
  place : Nat
  /-- The token. -/
  token : Text

/-- The place behind the token. -/
def Occurrence.stop (o : Occurrence) : Nat := o.place + o.token.length

/-- A token stands at a place of a text that is a word boundary. -/
def OccursAt (text token : Text) (place : Nat) : Prop :=
  ∃ left right, text = left ++ token ++ right ∧ left.length = place ∧
    atBoundary isAsciiWord left.getLast? (token ++ right).head? = true

/-- Tokens of a kind one behind the other which, from some place on, leave out no place where one
could start. -/
structure Exhausts (isToken : Text → Prop) (text : Text) (start : Nat)
    (found : List Occurrence) : Prop where
  /-- All are of the kind. -/
  shaped : ∀ o ∈ found, isToken o.token
  /-- Each stands at its place, which is a word boundary. -/
  stands : ∀ o ∈ found, OccursAt text o.token o.place
  /-- None starts sooner. -/
  begins : ∀ o ∈ found, start ≤ o.place
  /-- Each ends before the next one starts. -/
  apart : found.Pairwise fun o later => o.stop ≤ later.place
  /-- Wherever a token of the kind could start, there is one of these. -/
  covers : ∀ token place, isToken token → OccursAt text token place → start ≤ place →
    ∃ o ∈ found, o.place ≤ place ∧ place < o.stop

/-- What stands behind some text is what the rest starts with. -/
theorem occursAt_append_iff :
    OccursAt (front ++ rest) token front.length ↔
      token <+: rest ∧ atBoundary isAsciiWord front.getLast? rest.head? = true := by
  constructor
  · rintro ⟨left, right, divided, size, boundary⟩
    rw [List.append_assoc] at divided
    -- Two ways to cut a text at one place are the same.
    obtain ⟨rfl, rfl⟩ := List.append_inj divided size.symm
    exact ⟨⟨right, rfl⟩, boundary⟩
  · rintro ⟨⟨right, rfl⟩, boundary⟩
    exact ⟨front, right, by simp, rfl, boundary⟩

namespace Exhausts

/-- Where the text is over, nothing is left to be found. -/
theorem done (filled : ∀ token, isToken token → token ≠ []) (ended : text.length ≤ start) :
    Exhausts isToken text start [] where
  shaped := by simp
  stands := by simp
  begins := by simp
  apart := .nil
  covers := by
    -- A token has a character, which would stand behind the end of the text.
    rintro token _ shaped ⟨left, right, rfl, rfl, -⟩ late
    have positive := List.length_pos_iff.mpr (filled token shaped)
    simp only [List.length_append] at ended
    omega

/-- A place at which no token stands may be passed. -/
theorem pass {found : List Occurrence}
    (none : ∀ token, isToken token → ¬ OccursAt text token start)
    (later : Exhausts isToken text (start + 1) found) : Exhausts isToken text start found where
  shaped := later.shaped
  stands := later.stands
  begins o member := Nat.le_of_succ_le (later.begins o member)
  apart := later.apart
  covers token place shaped occurs reached := by
    -- Only the start itself is not covered later, and no token stands there.
    rcases Nat.eq_or_lt_of_le reached with rfl | beyond
    · exact absurd occurs (none token shaped)
    · exact later.covers token place shaped occurs beyond

/-- A token is followed by those behind it. -/
theorem cons {o : Occurrence} {found : List Occurrence} (shaped : isToken o.token)
    (stands : OccursAt text o.token o.place) (later : Exhausts isToken text o.stop found) :
    Exhausts isToken text o.place (o :: found) where
  shaped := List.forall_mem_cons.mpr ⟨shaped, later.shaped⟩
  stands := List.forall_mem_cons.mpr ⟨stands, later.stands⟩
  begins := List.forall_mem_cons.mpr ⟨Nat.le_refl _, fun next member =>
    Nat.le_trans (Nat.le_add_right _ _) (later.begins next member)⟩
  apart := List.pairwise_cons.mpr ⟨later.begins, later.apart⟩
  covers token place kind occurs reached := by
    -- A place is within the token or behind it.
    rcases Nat.lt_or_ge place o.stop with within | behind
    · exact ⟨o, List.mem_cons_self, reached, within⟩
    · obtain ⟨next, member, cover⟩ := later.covers token place kind occurs behind
      exact ⟨next, List.mem_cons_of_mem o member, cover⟩

end Exhausts

/-- A scan finds tokens that leave out no start of a token behind what is skipped. -/
theorem exists_exhausts (sound : Sound token?) (persistent : Persistent token?)
    (finds : Finds token? isToken) (front rest : Text) (skip : Nat) :
    ∃ found, found.map Occurrence.token = scanTokens token? front.getLast? skip rest ∧
      Exhausts isToken (front ++ rest) (front.length + skip) found := by
  -- The scan passes from character to character, and what it has passed becomes the front.
  induction rest generalizing front skip with
  | nil =>
    exact ⟨[], rfl, .done (fun _ => finds.ne_nil sound) (by simp)⟩
  | cons c rest ih =>
    have split : front ++ c :: rest = (front ++ [c]) ++ rest := by simp
    have last : (front ++ [c]).getLast? = some c := by simp
    cases skip with
    | succ skip =>
      -- What is skipped is within the last token, which covers it.
      obtain ⟨found, tokens, exhausts⟩ := ih (front ++ [c]) skip
      refine ⟨found, by rw [tokens, last]; rfl, ?_⟩
      rw [split]
      simpa [Nat.add_assoc, Nat.add_comm 1] using exhausts
    | zero =>
      cases here : (if atBoundary isAsciiWord front.getLast? (some c) then token? (c :: rest)
        else none) with
      | none =>
        obtain ⟨found, tokens, exhausts⟩ := ih (front ++ [c]) 0
        refine ⟨found, by simp [scanTokens, here, tokens], .pass ?_ ?_⟩
        · -- A token that stands here would have been found.
          intro token shaped occurs
          obtain ⟨⟨right, same⟩, boundary⟩ := occursAt_append_iff.mp occurs
          have found := persistent token right (finds.every shaped)
          rw [same] at found
          have boundary : atBoundary isAsciiWord front.getLast? (some c) = true := boundary
          simp [boundary] at here
          simp [here] at found
        · rw [split]
          simpa using exhausts
      | some token =>
        obtain ⟨boundary, here⟩ : atBoundary isAsciiWord front.getLast? (some c) = true ∧
            token? (c :: rest) = some token := by simpa using here
        obtain ⟨filled, starts⟩ := sound _ _ here
        -- The scan goes on at the end of the token, its first character being passed already.
        obtain ⟨found, tokens, exhausts⟩ := ih (front ++ [c]) (token.length - 1)
        have positive := List.length_pos_iff.mpr filled
        refine ⟨⟨front.length, token⟩ :: found, by simp [scanTokens, boundary, here, tokens],
          Exhausts.cons (o := ⟨front.length, token⟩) (finds.only here)
            (occursAt_append_iff.mpr ⟨starts, boundary⟩) ?_⟩
        rw [split]
        have stop : (front ++ [c]).length + (token.length - 1) = front.length + token.length := by
          simp only [List.length_append, List.length_singleton]
          omega
        rwa [stop] at exhausts

/-- The tokens of some occurrences, each once and in the order in which they first occur. -/
structure Lists (tokens : List Text) (found : List Occurrence) : Prop where
  /-- No token is repeated. -/
  nodup : tokens.Nodup
  /-- All tokens and no others are listed. -/
  mem_iff : ∀ token, token ∈ tokens ↔ ∃ o ∈ found, o.token = token
  /-- Before any occurrence of a token there is one of each token that is listed sooner. -/
  ordered : tokens.Pairwise fun token later => ∀ o ∈ found, o.token = later →
    ∃ first ∈ found, first.token = token ∧ first.place < o.place

namespace Lists

variable {first : Occurrence} {found : List Occurrence} {tokens : List Text}

/-- What is listed of the others is not the first token, and it occurs behind that. -/
theorem of_mem_others (others : Lists tokens (found.filter fun o => o.token ≠ first.token))
    (listed : token ∈ tokens) : token ≠ first.token ∧ ∃ o ∈ found, o.token = token := by
  obtain ⟨o, member, rfl⟩ := (others.mem_iff token).mp listed
  obtain ⟨member, different⟩ := List.mem_filter.mp member
  exact ⟨of_decide_eq_true different, o, member, rfl⟩

/-- The first token is listed before all tokens but itself. -/
theorem cons (ahead : ∀ o ∈ found, first.place < o.place)
    (others : Lists tokens (found.filter fun o => o.token ≠ first.token)) :
    Lists (first.token :: tokens) (first :: found) := by
  have other : ∀ o ∈ found, o.token ≠ first.token →
      o ∈ found.filter fun o => o.token ≠ first.token := fun o member different =>
    List.mem_filter.mpr ⟨member, decide_eq_true different⟩
  refine ⟨List.nodup_cons.mpr ⟨fun listed => (others.of_mem_others listed).1 rfl, others.nodup⟩,
    fun token => ⟨fun listed => ?_, ?_⟩, List.pairwise_cons.mpr ⟨?_, ?_⟩⟩
  · rcases List.mem_cons.mp listed with rfl | listed
    · exact ⟨first, List.mem_cons_self, rfl⟩
    · obtain ⟨-, o, member, same⟩ := others.of_mem_others listed
      exact ⟨o, List.mem_cons_of_mem first member, same⟩
  · rintro ⟨o, member, rfl⟩
    rcases List.mem_cons.mp member with rfl | member
    · exact List.mem_cons_self
    · -- Whatever comes again is listed with the first token, not with the others.
      by_cases again : o.token = first.token
      · exact again ▸ List.mem_cons_self
      · exact List.mem_cons_of_mem _ ((others.mem_iff _).mpr ⟨o, other o member again, rfl⟩)
  · -- Every other token comes behind the first one.
    rintro later listed o member rfl
    rcases List.mem_cons.mp member with rfl | member
    · exact absurd rfl (others.of_mem_others listed).1
    · exact ⟨first, List.mem_cons_self, rfl, ahead o member⟩
  · -- The order of the others does not depend on the first one.
    refine others.ordered.imp_of_mem fun {token later} _ listed before => ?_
    rintro o member rfl
    have different := (others.of_mem_others listed).1
    rcases List.mem_cons.mp member with rfl | member
    · exact absurd rfl different
    · obtain ⟨sooner, inOthers, same, place⟩ := before o (other o member different) rfl
      exact ⟨sooner, List.mem_cons_of_mem first (List.mem_filter.mp inOthers).1, same, place⟩

end Lists

/-- Leaving out repetitions lists the tokens of ascending occurrences. -/
theorem lists_eraseDups {found : List Occurrence}
    (ascending : found.Pairwise fun o later => o.place < later.place) :
    Lists (found.map Occurrence.token).eraseDups found := by
  -- What is left behind the first token has fewer occurrences.
  induction size : found.length using Nat.strongRecOn generalizing found with
  | _ n ih =>
    cases found with
    | nil => exact ⟨.nil, by simp, .nil⟩
    | cons first found =>
      obtain ⟨ahead, ascending⟩ := List.pairwise_cons.mp ascending
      have shorter : (found.filter fun o => o.token ≠ first.token).length < n := by
        rw [← size]
        exact Nat.lt_succ_of_le (List.length_filter_le _ _)
      have others := ih _ shorter (ascending.sublist List.filter_sublist) rfl
      -- Tokens are left out of the tokens exactly as their occurrences are.
      have same : ((first :: found).map Occurrence.token).eraseDups = first.token ::
          ((found.filter fun o => o.token ≠ first.token).map Occurrence.token).eraseDups := by
        rw [List.map_cons, List.eraseDups_cons, List.filter_map]
        congr 4
        funext o
        rw [Bool.eq_iff_iff]
        simp
      rw [same]
      exact .cons ahead others

/-- A report lists the tokens of some occurrences, and behind them those that others add. -/
def Reports (report : List Text) (first second : List Occurrence) : Prop :=
  ∃ tokens more, report = tokens ++ more ∧ Lists tokens first ∧
    Lists more (second.filter fun o => !tokens.contains o.token)

/-- Leaving out the repetitions of two lists gives such a report. -/
theorem reports_eraseDups {first second : List Occurrence}
    (ascending : first.Pairwise fun o later => o.place < later.place)
    (ascending' : second.Pairwise fun o later => o.place < later.place) :
    Reports (first.map Occurrence.token ++ second.map Occurrence.token).eraseDups first second := by
  refine ⟨_, _, List.eraseDups_append, lists_eraseDups ascending, ?_⟩
  -- What is removed from the second tokens is in the first ones, repeated there or not.
  have same : (second.map Occurrence.token).removeAll (first.map Occurrence.token) =
      (second.filter fun o => !(first.map Occurrence.token).eraseDups.contains o.token).map
        Occurrence.token := by
    rw [List.removeAll, List.filter_map]
    congr 2
    funext o
    rw [Bool.eq_iff_iff]
    simp
  rw [same]
  exact lists_eraseDups (ascending'.sublist List.filter_sublist)

namespace Reports

variable {report : List Text} {first second : List Occurrence}

/-- No token is reported twice. -/
theorem nodup (reports : Reports report first second) : report.Nodup := by
  obtain ⟨tokens, more, rfl, listed, added⟩ := reports
  refine List.nodup_append.mpr ⟨listed.nodup, added.nodup, ?_⟩
  rintro token sooner _ later rfl
  obtain ⟨o, member, rfl⟩ := (added.mem_iff token).mp later
  have fresh := (List.mem_filter.mp member).2
  rw [List.contains_iff_mem.mpr sooner] at fresh
  exact absurd fresh (by simp)

/-- The tokens of all occurrences are reported, and no others. -/
theorem mem_iff (reports : Reports report first second) :
    token ∈ report ↔ ∃ o ∈ first ++ second, o.token = token := by
  obtain ⟨tokens, more, rfl, listed, added⟩ := reports
  rw [List.mem_append]
  -- A token of the second occurrences is listed in the first part or in the second, never in both.
  constructor
  · rintro (sooner | later)
    · obtain ⟨o, member, same⟩ := (listed.mem_iff token).mp sooner
      exact ⟨o, List.mem_append_left second member, same⟩
    · obtain ⟨o, member, same⟩ := (added.mem_iff token).mp later
      exact ⟨o, List.mem_append_right first (List.mem_filter.mp member).1, same⟩
  · rintro ⟨o, member, rfl⟩
    rcases List.mem_append.mp member with inFirst | inSecond
    · exact .inl ((listed.mem_iff _).mpr ⟨o, inFirst, rfl⟩)
    · -- What the others do not add is listed already.
      by_cases sooner : o.token ∈ tokens
      · exact .inl sooner
      · exact .inr ((added.mem_iff _).mpr
          ⟨o, List.mem_filter.mpr ⟨inSecond, by simpa using sooner⟩, rfl⟩)

end Reports

/-- Exhaustive occurrences start one behind the other. -/
theorem Exhausts.ascending {found : List Occurrence} (exhausts : Exhausts isToken text start found)
    (filled : ∀ token, isToken token → token ≠ []) :
    found.Pairwise fun o later => o.place < later.place := by
  refine exhausts.apart.imp_of_mem fun {o later} member _ apart => ?_
  have positive := List.length_pos_iff.mpr (filled _ (exhausts.shaped o member))
  unfold Occurrence.stop at apart
  omega

namespace ResidualDetector

/-- What a detector looks for: legacy tokens of its lead, and raw color tokens of its palette. -/
def IsResidual (detector : ResidualDetector) (token : Text) : Prop :=
  IsLegacyToken detector.legacyLead token ∨ IsRawToken detector.palette token

/-- The legacy tokens that a scan finds leave out no place where one could start. -/
theorem exists_legacy_exhausts (detector : ResidualDetector) (text : Text) :
    ∃ found, found.map Occurrence.token = detector.legacyTokens text ∧
      Exhausts (IsLegacyToken detector.legacyLead) text 0 found :=
  exists_exhausts (sound_legacy _) (persistent_legacy _) (finds_legacy _) [] text 0

/-- The raw color tokens that a scan finds leave out no place where one could start. -/
theorem exists_raw_exhausts (detector : ResidualDetector) (text : Text) :
    ∃ found, found.map Occurrence.token = detector.rawTokens text ∧
      Exhausts (IsRawToken detector.palette) text 0 found := by
  unfold rawTokens
  split
  · next none =>
    -- There is no scan only if no token could be found.
    exact ⟨[], rfl, by simp, by simp, by simp, .nil,
      fun token _ shaped => absurd shaped (not_isRawToken_of_isEmpty none token)⟩
  · exact exists_exhausts (sound_raw _) (persistent_raw _) (finds_raw _) [] text 0

/-- A detector reports every token once and nothing else: what it reports is residual and stands at
a word boundary, wherever a residual token could start there is one that it reports, and the legacy
tokens come before the raw color tokens, each in the order in which they first occur. -/
theorem detect_exhausts (detector : ResidualDetector) (text : Text) :
    (detector.detect text).Nodup ∧
      (∀ token ∈ detector.detect text,
        detector.IsResidual token ∧ ∃ place, OccursAt text token place) ∧
      (∀ token place, detector.IsResidual token → OccursAt text token place →
        ∃ reported ∈ detector.detect text, ∃ start, OccursAt text reported start ∧
          start ≤ place ∧ place < start + reported.length) ∧
      ∃ legacy raw, Exhausts (IsLegacyToken detector.legacyLead) text 0 legacy ∧
        Exhausts (IsRawToken detector.palette) text 0 raw ∧
        Reports (detector.detect text) legacy raw := by
  obtain ⟨legacy, ofLegacy, exhausts⟩ := detector.exists_legacy_exhausts text
  obtain ⟨raw, ofRaw, exhausts'⟩ := detector.exists_raw_exhausts text
  -- The detector joins the tokens of both scans and then leaves out repetitions, which is a report.
  have reports : Reports (detector.detect text) legacy raw := by
    rw [detect, ← ofLegacy, ← ofRaw]
    exact reports_eraseDups
      (exhausts.ascending fun _ => (finds_legacy _).ne_nil (sound_legacy _))
      (exhausts'.ascending fun _ => (finds_raw _).ne_nil (sound_raw _))
  refine ⟨reports.nodup, fun token reported => ?_, fun token place shaped occurs => ?_,
    legacy, raw, exhausts, exhausts', reports⟩
  · -- A reported token is that of an occurrence.
    obtain ⟨o, member, rfl⟩ := reports.mem_iff.mp reported
    rcases List.mem_append.mp member with inLegacy | inRaw
    · exact ⟨.inl (exhausts.shaped o inLegacy), o.place, exhausts.stands o inLegacy⟩
    · exact ⟨.inr (exhausts'.shaped o inRaw), o.place, exhausts'.stands o inRaw⟩
  · -- The occurrence that covers a place is reported.
    rcases shaped with shaped | shaped
    · obtain ⟨o, member, cover⟩ := exhausts.covers token place shaped occurs (Nat.zero_le _)
      exact ⟨o.token, reports.mem_iff.mpr ⟨o, List.mem_append_left _ member, rfl⟩, o.place,
        exhausts.stands o member, cover⟩
    · obtain ⟨o, member, cover⟩ := exhausts'.covers token place shaped occurs (Nat.zero_le _)
      exact ⟨o.token, reports.mem_iff.mpr ⟨o, List.mem_append_right _ member, rfl⟩, o.place,
        exhausts'.stands o member, cover⟩

/-- A detector for a palette in which one name starts with another one. -/
def nestedDetector : ResidualDetector := ⟨"na-", ["bg"], ["red", "red-x"]⟩

/-- A text with a token in a longer one, and with two tokens that come again. -/
def nestedText : Text := "ñna-na-a bg-red-500/50 na-b bg-red-x-1 na-a na-b"

/-- A token that could start in a longer one is covered by that, and is listed where it stands by
itself. -/
theorem detect_exhausts_nested :
    nestedDetector.detect nestedText =
        (["na-na-a", "na-b", "na-a", "bg-red-500/50", "bg-red-x-1"] : List Text) ∧
      nestedDetector.IsResidual "na-a" ∧ OccursAt nestedText "na-a" 4 ∧
      ∃ reported ∈ nestedDetector.detect nestedText, ∃ start,
        OccursAt nestedText reported start ∧ start ≤ 4 ∧ 4 < start + reported.length := by
  have residual : nestedDetector.IsResidual "na-a" :=
    .inl ⟨"a", by decide, List.all_eq_true.mp rfl, rfl⟩
  have occurs : OccursAt nestedText "na-a" 4 :=
    ⟨"ñna-", " bg-red-500/50 na-b bg-red-x-1 na-a na-b", by decide +kernel, rfl, by decide⟩
  obtain ⟨-, -, covered, -⟩ := nestedDetector.detect_exhausts nestedText
  exact ⟨by decide +kernel, residual, occurs, covered "na-a" 4 residual occurs⟩

end ResidualDetector

end TokenGuard
