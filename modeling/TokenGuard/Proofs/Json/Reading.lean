import Mathlib.Data.List.DropRight
import TokenGuard.Proofs.Json.Quoted
import TokenGuard.Proofs.Json.Spelling

/-! A text that spells a value is read as the node of this value, up to its end. -/

namespace TokenGuard.Json

variable {read : Text → Reading} {v : Value} {front back text rest : Text} {c : Char} {fuel : Nat}

/-- A gap is passed over. -/
theorem skipSpace_gap (gap : IsGap front) (rest : Text) :
    skipSpace (front ++ rest) = skipSpace rest :=
  List.dropWhile_append_of_pos gap

/-- Nothing is passed over in front of a character that is no blank. -/
theorem skipSpace_cons (solid : isSpace c = false) (rest : Text) :
    skipSpace (c :: rest) = c :: rest := by
  rw [skipSpace, List.dropWhile_cons_of_neg (by simp [solid])]

/-- A gap is passed over at once. -/
theorem skipSpace_skipSpace (text : Text) : skipSpace (skipSpace text) = skipSpace text :=
  List.dropWhile_idempotent _ text

/-- A value is read behind the gap in front of it. -/
theorem readValue_skipSpace (depth : Nat) (text : Text) :
    readValue depth (skipSpace text) = readValue depth text := by
  cases depth with
  | zero => rfl
  | succ depth => rw [readValue, readValue, skipSpace_skipSpace]

/-- A gap in front of something that ends a number ends one as well. -/
theorem endsNumber_gap (gap : IsGap back) (ended : EndsNumber rest) :
    EndsNumber (back ++ rest) := by
  cases back with
  | nil => exact ended
  | cons c back =>
    have blank : isSpace c = true := gap c List.mem_cons_self
    refine endsNumber_cons ?_ _
    -- None of the four blanks belongs to a number.
    simp only [isSpace, Bool.or_eq_true, decide_eq_true_eq] at blank
    rcases blank with ((rfl | rfl) | rfl) | rfl <;> decide

/-- A digit is no blank. -/
theorem isSpace_of_isDigit (digit : isDigit c = true) : isSpace c = false := by
  -- Each of the four blanks is looked at, and none of them is a digit.
  cases blank : isSpace c with
  | false => rfl
  | true =>
    simp only [isSpace, Bool.or_eq_true, decide_eq_true_eq] at blank
    rcases blank with ((rfl | rfl) | rfl) | rfl <;> cases digit

/-- A text that starts with a digit is read as a number without a sign. -/
theorem readValue_digit (digit : isDigit c = true) (rest : Text) :
    readValue (fuel + 1) (c :: rest) = readNumberNode false (c :: rest) := by
  -- The reader looks for words and a sign first.
  have differs : ∀ d, isDigit d = false → ¬ c = d := by
    rintro d other rfl
    rw [digit] at other
    cases other
  rw [readValue, skipSpace_cons (isSpace_of_isDigit digit)]
  simp only [if_neg (differs 'n' rfl), if_neg (differs 't' rfl), if_neg (differs 'f' rfl),
    if_neg (differs '-' rfl), if_pos digit]

/-- An integer of 64 bits is read up to something that ends a number. -/
theorem readValue_number {number : Number} (exact : number.Exact) (ended : EndsNumber rest) :
    readValue (fuel + 1) (number.text ++ rest) = (.number (.ok number), some rest) := by
  -- Digits are told by the first of them, and a negative number by its sign.
  rcases exact.written with ⟨n, fits, rfl, written⟩ | ⟨n, positive, fits, rfl, written⟩
  · obtain ⟨c, digits, spelled, digit⟩ := exists_ofNat_cons n
    rw [written, ← readNumberNode_nonnegative fits ended, spelled]
    exact readValue_digit digit (digits ++ rest)
  · rw [written, ← readNumberNode_negative positive fits ended]
    rfl

/-- A word is read up to its end. -/
theorem readWord_append (node : Node) (word rest : Text) :
    readWord node word (word ++ rest) = (node, some rest) := by
  -- The letters are compared one by one.
  induction word with
  | nil => rfl
  | cons letter word ih => rw [List.cons_append, readWord, if_pos rfl, ih]

/-- A written text is the text of its string. -/
theorem stringValue_flatMap_escapeChar (text rest : Text) :
    stringValue (text.flatMap escapeChar ++ '"' :: rest) = .ok text := by
  rw [stringValue, readString_flatMap_escapeChar]
  rfl

/-- A string is read up to the quote that closes it. -/
theorem readStringNode_flatMap_escapeChar (text rest : Text) :
    readStringNode (text.flatMap escapeChar ++ '"' :: rest) = (.string (.ok text), some rest) := by
  rw [readStringNode, skipString_flatMap_escapeChar, stringValue_flatMap_escapeChar]

/-- The value of a member is read behind the colon. -/
theorem readMemberValue_colon (read : Text → Reading) (text : Text) :
    readMemberValue read (':' :: text) = read text := by
  rw [readMemberValue, skipSpace_cons (show isSpace ':' = false from rfl)]
  rfl

/-- What spells a value starts, behind a gap, with a character that closes no array. -/
theorem Spells.starts (spells : Spells v text) :
    ∃ c after, (∀ rest, skipSpace (text ++ rest) = c :: (after ++ rest)) ∧ c ≠ ']' := by
  -- Each kind of value has a first character of its own, and a gap hides none.
  induction spells with
  | null => exact ⟨'n', "ull", fun rest => skipSpace_cons rfl _, by decide⟩
  | boolean value =>
    cases value with
    | false => exact ⟨'f', "alse", fun rest => skipSpace_cons rfl _, by decide⟩
    | true => exact ⟨'t', "rue", fun rest => skipSpace_cons rfl _, by decide⟩
  | number exact =>
    rcases exact.written with ⟨n, -, -, written⟩ | ⟨n, -, -, -, written⟩
    · obtain ⟨c, digits, spelled, digit⟩ := exists_ofNat_cons n
      refine ⟨c, digits, fun rest => ?_, ?_⟩
      · rw [written, spelled]
        exact skipSpace_cons (isSpace_of_isDigit digit) _
      · rintro rfl
        cases digit
    · exact ⟨'-', Text.ofNat n, fun rest => written ▸ skipSpace_cons rfl _, by decide⟩
  | string text => exact ⟨'"', _, fun rest => skipSpace_cons rfl _, by decide⟩
  | array => exact ⟨'[', _, fun rest => skipSpace_cons rfl _, by decide⟩
  | object => exact ⟨'\x7b', _, fun rest => skipSpace_cons rfl _, by decide⟩
  | behind gap inner ih =>
    obtain ⟨c, after, starts, noBracket⟩ := ih
    refine ⟨c, after, fun rest => ?_, noBracket⟩
    rw [List.append_assoc, skipSpace_gap gap, starts]

/-- Behind the gap in front of items stands neither the end nor a bracket. -/
theorem skipSpace_join_items {items : List (Value × Text)}
    (spelled : ∀ item ∈ items, Spells item.1 item.2) (filled : items ≠ []) (rest : Text) :
    ∃ c after, skipSpace (Text.join [','] (items.map Prod.snd) ++ rest) = c :: after ∧
      c ≠ ']' := by
  -- The joined items start as the first one does.
  obtain ⟨item, items, rfl⟩ := List.exists_cons_of_ne_nil filled
  obtain ⟨tail, joined⟩ := Text.exists_join_cons [','] item.2 (items.map Prod.snd)
  obtain ⟨c, after, start, noBracket⟩ := (spelled item (by simp)).starts
  refine ⟨c, after ++ (tail ++ rest), ?_, noBracket⟩
  rw [List.map_cons, joined, List.append_assoc, start]

/-- Items between commas are read one by one up to the bracket that closes them. -/
theorem readItems_join {items : List (Value × Text)} (gap : IsGap back)
    (each : ∀ item ∈ items, ∀ rest, EndsNumber rest →
      read (skipSpace (item.2 ++ rest)) = (.ofValue item.1, some rest))
    (spelled : ∀ item ∈ items, Spells item.1 item.2) (filled : items ≠ [])
    (within : items.length ≤ fuel) (rest : Text) :
    readItems read fuel
        (skipSpace (Text.join [','] (items.map Prod.snd) ++ (back ++ ']' :: rest))) =
      (Node.ofValue.ofItems (items.map Prod.fst), .closed, some rest) := by
  -- Each item takes one of the fuel, and the comma behind it leads to the next one.
  induction items generalizing fuel with
  | nil => exact absurd rfl filled
  | cons item items ih =>
    obtain ⟨first, each⟩ := List.forall_mem_cons.mp each
    obtain ⟨-, spelled⟩ := List.forall_mem_cons.mp spelled
    cases fuel with
    | zero => simp at within
    | succ fuel =>
      cases items with
      | nil =>
        -- The last item is followed by the gap and the bracket.
        have ended : EndsNumber (']' :: rest) := endsNumber_cons (by decide) rest
        rw [List.map_cons, List.map_nil, Text.join, readItems, first _ (endsNumber_gap gap ended)]
        simp only [skipSpace_gap gap, skipSpace_cons (show isSpace ']' = false from rfl), if_pos]
        rfl
      | cons other items =>
        have divided : Text.join [','] ((item :: other :: items).map Prod.snd) =
            item.2 ++ ',' :: Text.join [','] ((other :: items).map Prod.snd) :=
          Text.join_cons_cons [','] item.2 other.2 (items.map Prod.snd)
        -- Behind the comma stands neither the end nor a bracket, but the next item.
        obtain ⟨c, after, next, noBracket⟩ :=
          skipSpace_join_items spelled (by simp) (back ++ ']' :: rest)
        have further := ih each spelled (by simp) (Nat.le_of_succ_le_succ within)
        rw [divided, List.append_assoc, List.cons_append, readItems, first _ (endsNumber_comma _)]
        simp only [skipSpace_cons (show isSpace ',' = false from rfl)]
        rw [if_neg (by decide), if_pos trivial]
        split
        · next nothing =>
          rw [next] at nothing
          cases nothing
        · next closed =>
          rw [next] at closed
          exact absurd (List.cons.inj closed).1 noBracket
        · rw [further]
          rfl

/-- Behind the gap in front of a member stands the quote that opens its key. -/
theorem skipSpace_written {member : Spelled} (gap : IsGap member.front) (rest : Text) :
    skipSpace (member.written ++ rest) =
      '"' :: (member.key.flatMap escapeChar ++ '"' :: ':' :: (member.text ++ rest)) := by
  rw [Spelled.written, List.append_assoc, skipSpace_gap gap]
  simp [encodeString, skipSpace_cons (show isSpace '"' = false from rfl)]

/-- Behind the gap in front of members stands the quote that opens the first key. -/
theorem skipSpace_join_members {members : List Spelled}
    (gaps : ∀ member ∈ members, IsGap member.front) (filled : members ≠ []) (rest : Text) :
    ∃ after, skipSpace (Text.join [','] (members.map Spelled.written) ++ rest) = '"' :: after := by
  -- As for items, the joined members start as the first one does.
  obtain ⟨member, members, rfl⟩ := List.exists_cons_of_ne_nil filled
  obtain ⟨tail, joined⟩ := Text.exists_join_cons [','] member.written (members.map Spelled.written)
  rw [List.map_cons, joined, List.append_assoc, skipSpace_written (gaps member (by simp))]
  exact ⟨_, rfl⟩

/-- Members between commas are read one by one up to the brace that closes them. -/
theorem readMembers_join {members : List Spelled} (gap : IsGap back)
    (each : ∀ member ∈ members, ∀ rest, EndsNumber rest →
      read (member.text ++ rest) = (.ofValue member.value, some rest))
    (gaps : ∀ member ∈ members, IsGap member.front) (filled : members ≠ [])
    (within : members.length ≤ fuel) (rest : Text) :
    readMembers read fuel
        (skipSpace (Text.join [','] (members.map Spelled.written) ++ (back ++ '\x7d' :: rest))) =
      (Node.ofValue.ofMembers (members.map Spelled.member), .closed, some rest) := by
  -- Each member takes one of the fuel, and the comma behind its value leads to the next key.
  induction members generalizing fuel with
  | nil => exact absurd rfl filled
  | cons member members ih =>
    obtain ⟨first, each⟩ := List.forall_mem_cons.mp each
    obtain ⟨front, gaps⟩ := List.forall_mem_cons.mp gaps
    cases fuel with
    | zero => simp at within
    | succ fuel =>
      cases members with
      | nil =>
        -- The last value is followed by the gap and the brace.
        have ended : EndsNumber ('\x7d' :: rest) := endsNumber_cons (by decide) rest
        rw [List.map_cons, List.map_nil, Text.join, skipSpace_written front, readMembers,
          if_neg (by decide)]
        simp only [skipString_flatMap_escapeChar, stringValue_flatMap_escapeChar,
          readMemberValue_colon, first _ (endsNumber_gap gap ended), skipSpace_gap gap,
          skipSpace_cons (show isSpace '\x7d' = false from rfl), if_true]
        rfl
      | cons other members =>
        have divided : Text.join [','] ((member :: other :: members).map Spelled.written) =
            member.written ++ ',' :: Text.join [','] ((other :: members).map Spelled.written) :=
          Text.join_cons_cons [','] member.written other.written (members.map Spelled.written)
        -- Behind the comma stands neither the end nor a brace, but the next key.
        obtain ⟨after, next⟩ := skipSpace_join_members gaps (by simp) (back ++ '\x7d' :: rest)
        have further := ih each gaps (by simp) (Nat.le_of_succ_le_succ within)
        rw [divided, List.append_assoc, List.cons_append, skipSpace_written front, readMembers,
          if_neg (by decide)]
        simp only [skipString_flatMap_escapeChar, stringValue_flatMap_escapeChar,
          readMemberValue_colon, first _ (endsNumber_comma _),
          skipSpace_cons (show isSpace ',' = false from rfl)]
        rw [if_neg (by decide), if_pos trivial]
        split
        · next nothing =>
          rw [next] at nothing
          cases nothing
        · next closed =>
          rw [next] at closed
          cases closed
        · rw [further]
          rfl

/-- An array is read as its items. -/
theorem readArray_join {items : List (Value × Text)} (gap : IsGap back)
    (each : ∀ item ∈ items, ∀ rest, EndsNumber rest →
      read (skipSpace (item.2 ++ rest)) = (.ofValue item.1, some rest))
    (spelled : ∀ item ∈ items, Spells item.1 item.2) (within : items.length ≤ fuel)
    (rest : Text) :
    readArray read fuel (Text.join [','] (items.map Prod.snd) ++ (back ++ ']' :: rest)) =
      (.ofValue (.array (items.map Prod.fst)), some rest) := by
  by_cases blank : items = []
  · -- Between the brackets is nothing but the gap.
    rw [blank, List.map_nil, Text.join, List.nil_append, readArray, skipSpace_gap gap,
      skipSpace_cons (show isSpace ']' = false from rfl)]
    rfl
  · obtain ⟨c, after, next, noBracket⟩ :=
      skipSpace_join_items spelled blank (back ++ ']' :: rest)
    -- With an item in it, the array neither ends nor is closed right away.
    rw [readArray]
    split
    · next nothing =>
      rw [next] at nothing
      cases nothing
    · next closed =>
      rw [next] at closed
      exact absurd (List.cons.inj closed).1 noBracket
    · rw [readItems_join gap each spelled blank within]
      rfl

/-- An object is read as its members. -/
theorem readObject_join {members : List Spelled} (gap : IsGap back)
    (each : ∀ member ∈ members, ∀ rest, EndsNumber rest →
      read (member.text ++ rest) = (.ofValue member.value, some rest))
    (gaps : ∀ member ∈ members, IsGap member.front) (within : members.length ≤ fuel)
    (rest : Text) :
    readObject read fuel
        (Text.join [','] (members.map Spelled.written) ++ (back ++ '\x7d' :: rest)) =
      (.ofValue (.object (members.map Spelled.member)), some rest) := by
  by_cases blank : members = []
  · -- Between the braces is nothing but the gap.
    rw [blank, List.map_nil, Text.join, List.nil_append, readObject, skipSpace_gap gap,
      skipSpace_cons (show isSpace '\x7d' = false from rfl)]
    rfl
  · obtain ⟨after, next⟩ := skipSpace_join_members gaps blank (back ++ '\x7d' :: rest)
    -- With a member in it, the object neither ends nor is closed right away.
    rw [readObject]
    split
    · next nothing =>
      rw [next] at nothing
      cases nothing
    · next closed =>
      rw [next] at closed
      cases closed
    · rw [readMembers_join gap each gaps blank within]
      rfl

/-- A text that spells a value is read as its node, if there is fuel for all its characters. -/
theorem Spells.readValue_append (spells : Spells v text) (enough : text.length ≤ fuel)
    (rest : Text) (ended : EndsNumber rest) :
    readValue (fuel + 1) (text ++ rest) = (.ofValue v, some rest) := by
  -- Apart from ending a number the rest is arbitrary, so that a part is read in front of others.
  induction spells generalizing fuel rest with
  | null => exact readWord_append .null "ull" rest
  | boolean value =>
    cases value with
    | false => exact readWord_append (.boolean false) "alse" rest
    | true => exact readWord_append (.boolean true) "rue" rest
  | number exact => exact readValue_number exact ended
  | string text =>
    have quoted : encodeString text ++ rest =
        '"' :: (text.flatMap escapeChar ++ '"' :: rest) := by
      simp [encodeString]
    rw [quoted]
    exact readStringNode_flatMap_escapeChar text rest
  | @array items back inner gap ih =>
    -- Every item is shorter than the array, so there is fuel for it one level below.
    simp only [List.length_cons, List.length_append, List.length_nil] at enough
    obtain ⟨depth, rfl⟩ : ∃ depth, fuel = depth + 1 := ⟨fuel - 1, by omega⟩
    have within : items.length ≤ depth + 1 := by
      have count := Text.length_le_length_join_succ (List.cons_ne_nil ',' []) (items.map Prod.snd)
      rw [List.length_map] at count
      omega
    have each : ∀ item ∈ items, ∀ rest, EndsNumber rest →
        readValue (depth + 1) (skipSpace (item.2 ++ rest)) = (.ofValue item.1, some rest) := by
      intro item member rest ended
      have shorter : item.2.length ≤ (Text.join [','] (items.map Prod.snd)).length :=
        Text.length_le_length_join (List.mem_map_of_mem member)
      rw [readValue_skipSpace]
      exact ih item member (by omega) rest ended
    rw [List.cons_append, List.append_assoc, List.append_assoc]
    exact readArray_join gap each inner within rest
  | @object members back inner gaps gap ih =>
    -- Every value is shorter than its member, and this one is shorter than the object.
    simp only [List.length_cons, List.length_append, List.length_nil] at enough
    obtain ⟨depth, rfl⟩ : ∃ depth, fuel = depth + 1 := ⟨fuel - 1, by omega⟩
    have within : members.length ≤ depth + 1 := by
      have count := Text.length_le_length_join_succ (List.cons_ne_nil ',' [])
        (members.map Spelled.written)
      rw [List.length_map] at count
      omega
    have each : ∀ member ∈ members, ∀ rest, EndsNumber rest →
        readValue (depth + 1) (member.text ++ rest) = (.ofValue member.value, some rest) := by
      intro member inMembers rest ended
      have shorter : member.written.length ≤
          (Text.join [','] (members.map Spelled.written)).length :=
        Text.length_le_length_join (List.mem_map_of_mem inMembers)
      simp only [Spelled.written, List.length_append, List.length_cons] at shorter
      exact ih member inMembers (by omega) rest ended
    rw [List.cons_append, List.append_assoc, List.append_assoc]
    exact readObject_join gap each gaps within rest
  | behind gap inner ih =>
    -- The reader passes over the gap before it looks at anything.
    rw [List.length_append] at enough
    rw [← readValue_skipSpace, List.append_assoc, skipSpace_gap gap, readValue_skipSpace]
    exact ih (by omega) rest ended

/-- A text that spells a value is a document of this value. -/
theorem Spells.ofText (spells : Spells v text) : Document.ofText text = ⟨.ofValue v, false⟩ := by
  -- Each level takes a character, so the length of the text is fuel enough.
  have read := spells.readValue_append (Nat.le_refl _) [] endsNumber_nil
  rw [List.append_nil] at read
  rw [Document.ofText, read]
  rfl

end TokenGuard.Json
