import TokenGuard.Proofs.Json.MemberOrder
import TokenGuard.Proofs.Json.Readable

/-! The canonical text of a value without floats is read as the value with the members of its
objects in canonical order, and it is the canonical text of every value that differs from this one
in the places of its index keys alone. -/

namespace TokenGuard.Json

variable {kind : Number → Prop} {related other : List Text → List Text → Prop} {v w : Value}
  {text : Text} {opened : Nat} {members moved : List (Text × Value)}

/-- A number that is kept as an integer, and not as a float. -/
def Number.IsInteger (number : Number) : Prop := ∃ value, number = .integer value

/-- Index keys in ascending order, and behind them the other keys in the order that they had. -/
def CanonicalKeys (keys ordered : List Text) : Prop :=
  ∃ indices : List Nat, indices.Pairwise (· < ·) ∧ (∀ n ∈ indices, n ≤ 4294967294) ∧
    ordered = indices.map Text.ofNat ++ keys.filter (¬ IsIndex ·)

/-- Keys among which those that are no index stand in one order. -/
def SameNamed (keys moved : List Text) : Prop :=
  moved.filter (¬ IsIndex ·) = keys.filter (¬ IsIndex ·)

/-- A value with the members of its objects, at any depth, in another order, which is related to the
order that they had. -/
inductive Value.Reordered (related : List Text → List Text → Prop) : Value → Value → Prop
  | null : Reordered related .null .null
  | boolean (value : Bool) : Reordered related (.boolean value) (.boolean value)
  | number (value : Number) : Reordered related (.number value) (.number value)
  | string (text : Text) : Reordered related (.string text) (.string text)
  | array (items : List (Value × Value))
      (inner : ∀ item ∈ items, Reordered related item.1 item.2) :
      Reordered related (.array (items.map Prod.fst)) (.array (items.map Prod.snd))
  | object (members : List (Text × Value × Value)) {moved : List (Text × Value)}
      (inner : ∀ member ∈ members, Reordered related member.2.1 member.2.2)
      (perm : moved.Perm (members.map (Prod.map id Prod.snd)))
      (keys : related (members.map Prod.fst) (moved.map Prod.fst)) :
      Reordered related (.object (members.map (Prod.map id Prod.fst))) (.object moved)

/-- The keys that are kept because they are no index are the named ones. -/
theorem filter_not_isIndex (keys : List Text) :
    keys.filter (¬ IsIndex ·) = keys.filter isNamed :=
  List.filter_congr fun key _ => (isNamed_eq_decide key).symm

/-- Keys in canonical order have those that are no index in the order that they had. -/
theorem CanonicalKeys.sameNamed {keys ordered : List Text} (canonical : CanonicalKeys keys ordered) :
    SameNamed keys ordered := by
  obtain ⟨indices, -, small, rfl⟩ := canonical
  -- Nothing is kept of the index keys in front, and everything of the keys behind them.
  have none : (indices.map Text.ofNat).filter (¬ IsIndex ·) = [] := by
    refine List.filter_eq_nil_iff.mpr (List.forall_mem_map.mpr ?_)
    intro n member
    have index : IsIndex (Text.ofNat n) := ⟨n, small n member, rfl⟩
    simp [index]
  rw [SameNamed, List.filter_append, none, List.nil_append, List.filter_filter]
  simp

/-- Members with keys of their own are put into canonical order. -/
theorem canonicalKeys_orderMembers (unique : (members.map Prod.fst).Nodup) :
    CanonicalKeys (members.map Prod.fst) ((orderMembers members).map Prod.fst) := by
  -- The members in front have index keys, each of which stands there once.
  have index : ∀ member ∈ (members.filter fun member => (indexKey? member.1).isSome).mergeSort
      (fun left right => indexOf left.1 ≤ indexOf right.1), (indexKey? member.1).isSome = true := by
    intro member sorted
    exact (List.mem_filter.mp ((List.mergeSort_perm _ _).subset sorted)).2
  have distinct : (((members.filter fun member => (indexKey? member.1).isSome).mergeSort
      fun left right => indexOf left.1 ≤ indexOf right.1).map Prod.fst).Nodup := by
    rw [((List.mergeSort_perm _ _).map Prod.fst).nodup_iff]
    exact (List.filter_sublist.map Prod.fst).nodup unique
  obtain ⟨ascending, spelled⟩ := indices_of_sorted index distinct (pairwise_mergeSort_indexOf _)
  refine ⟨_, ascending, ?_, ?_⟩
  · -- The greatest index is one less than the limit.
    refine List.forall_mem_map.mpr ?_
    intro member sorted
    exact Nat.le_of_lt_succ (indexOf_lt (index member sorted))
  · -- Behind the index keys stand those that the order leaves as they are.
    rw [← spelled, filter_not_isIndex, filter_isNamed_keys, ← List.map_append]
    rfl

namespace Value.Reordered

/-- Items are reordered one by one. -/
theorem array_map {f : Value → Value} {items : List Value}
    (inner : ∀ item ∈ items, item.Reordered related (f item)) :
    (Value.array items).Reordered related (.array (items.map f)) := by
  have reordered := Reordered.array (items.map fun item => (item, f item))
    (List.forall_mem_map.mpr inner)
  simpa [Function.comp_def] using reordered

/-- The values of members are reordered one by one, and then the members are moved. -/
theorem object_map {f : Value → Value}
    (inner : ∀ member ∈ members, member.2.Reordered related (f member.2))
    (perm : moved.Perm (members.map (Prod.map id f)))
    (keys : related (members.map Prod.fst) (moved.map Prod.fst)) :
    (Value.object members).Reordered related (.object moved) := by
  -- Each member is paired with what becomes of its value.
  have before : (members.map fun member => (member.1, member.2, f member.2)).map
      (Prod.map id Prod.fst) = members := by
    simp [Function.comp_def]
  have after : (members.map fun member => (member.1, member.2, f member.2)).map
      (Prod.map id Prod.snd) = members.map (Prod.map id f) := by
    rw [List.map_map]
    rfl
  have sameKeys : (members.map fun member => (member.1, member.2, f member.2)).map Prod.fst =
      members.map Prod.fst := by
    rw [List.map_map]
    rfl
  have reordered := Reordered.object (members.map fun member => (member.1, member.2, f member.2))
    (List.forall_mem_map.mpr inner) (after ▸ perm) (sameKeys ▸ keys)
  rw [before] at reordered
  exact reordered

/-- Reordering members changes no number. -/
theorem every (reordered : v.Reordered related w) (every : v.Every kind) : w.Every kind := by
  -- The same numbers stand in other places.
  induction reordered with
  | array items inner ih =>
    cases every with
    | array ofItems =>
      refine .array (List.forall_mem_map.mpr ?_)
      intro item member
      exact ih item member (ofItems _ (List.mem_map_of_mem member))
  | object members inner perm keys ih =>
    cases every with
    | object ofMembers =>
      refine .object ?_
      intro member moved
      -- A member that was moved is one of those before, with its value reordered.
      obtain ⟨before, inMembers, rfl⟩ := List.mem_map.mp (perm.subset moved)
      exact ih before inMembers (ofMembers _ (List.mem_map_of_mem inMembers))
  | _ => exact every

/-- The keys of the members that are moved are those from before. -/
theorem keys_perm {members : List (Text × Value × Value)}
    (perm : moved.Perm (members.map (Prod.map id Prod.snd))) :
    (moved.map Prod.fst).Perm ((members.map (Prod.map id Prod.fst)).map Prod.fst) := by
  -- Which of the two values is taken has no influence on the keys.
  have moved := perm.map Prod.fst
  rw [List.map_map] at moved ⊢
  exact moved

/-- A reordered value can be read where the value can. -/
theorem readable (reordered : v.Reordered related w) (readable : v.Readable opened) :
    w.Readable opened := by
  induction reordered generalizing opened with
  | array items inner ih =>
    cases readable with
    | array shallow ofItems =>
      -- The items stay as deep as they were.
      refine .array shallow (List.forall_mem_map.mpr ?_)
      intro item member
      exact ih item member (ofItems _ (List.mem_map_of_mem member))
  | object members inner perm keys ih =>
    cases readable with
    | object shallow distinct ofMembers =>
      refine .object shallow ((keys_perm perm).nodup_iff.mpr distinct) ?_
      intro member moved
      obtain ⟨before, inMembers, rfl⟩ := List.mem_map.mp (perm.subset moved)
      exact ih before inMembers (ofMembers _ (List.mem_map_of_mem inMembers))
  | _ => exact readable

/-- Orders that are related are so by every wider relation. -/
theorem mono (reordered : v.Reordered related w)
    (wider : ∀ keys moved, related keys moved → other keys moved) : v.Reordered other w := by
  -- Only the orders of objects are related, and all else is kept.
  induction reordered with
  | null => exact .null
  | boolean value => exact .boolean value
  | number value => exact .number value
  | string text => exact .string text
  | array items inner ih => exact .array items ih
  | object members inner perm keys ih => exact .object members ih perm (wider _ _ keys)

/-- A value whose index keys were moved has the canonical value that it had. -/
theorem canonical_eq (reordered : v.Reordered SameNamed w) (readable : v.Readable opened) :
    w.canonical = v.canonical := by
  -- Deeper values come first: once they are canonical, only the order of members is left.
  induction reordered generalizing opened with
  | array items inner ih =>
    cases readable with
    | array shallow ofItems =>
      rw [canonical, canonical, canonicalItems_eq_map, canonicalItems_eq_map, List.map_map,
        List.map_map]
      refine congrArg Value.array (List.map_congr_left ?_)
      intro item member
      exact ih item member (ofItems _ (List.mem_map_of_mem member))
  | @object members moved inner perm keys ih =>
    cases readable with
    | object shallow unique ofMembers =>
      -- Once the values are canonical, the members differ from those before in their order alone.
      have values : (members.map (Prod.map id Prod.snd)).map (Prod.map id canonical) =
          (members.map (Prod.map id Prod.fst)).map (Prod.map id canonical) := by
        rw [List.map_map, List.map_map]
        refine List.map_congr_left ?_
        intro member inMembers
        exact Prod.ext rfl (ih member inMembers (ofMembers _ (List.mem_map_of_mem inMembers)))
      have same : (moved.map (Prod.map id canonical)).Perm
          ((members.map (Prod.map id Prod.fst)).map (Prod.map id canonical)) :=
        values ▸ perm.map (Prod.map id canonical)
      have distinct : (((members.map (Prod.map id Prod.fst)).map
          (Prod.map id canonical)).map Prod.fst).Nodup := by
        rw [keys_map_values]
        exact unique
      have distinct' := (same.map Prod.fst).nodup_iff.mpr distinct
      rw [canonical, canonical, canonicalMembers_eq_map, canonicalMembers_eq_map]
      refine congrArg Value.object ((orderMembers_eq_iff distinct' distinct).mpr ⟨?_, ?_⟩)
      · -- Keys stand once, so moving members does not change what is found.
        intro key
        exact lookup_perm distinct' same key
      · -- The values have no influence on the keys that are no index.
        rw [keys_map_values, keys_map_values, keys_map_values, ← filter_not_isIndex,
          ← filter_not_isIndex]
        exact keys
  | _ => rfl

end Value.Reordered

namespace Value.Readable

/-- A value that can be read has its members put into canonical order. -/
theorem reordered_canonical (readable : v.Readable opened) :
    v.Reordered CanonicalKeys v.canonical := by
  -- Each value is canonical when its own items and members are and its members are in order.
  induction readable with
  | null => exact .null
  | boolean value => exact .boolean value
  | number value => exact .number value
  | string text => exact .string text
  | @array _ items shallow inner ih =>
    rw [canonical, canonicalItems_eq_map]
    exact .array_map ih
  | @object _ members shallow unique inner ih =>
    -- The values become canonical where they are, and then the members are put into order.
    have distinct : ((members.map (Prod.map id canonical)).map Prod.fst).Nodup := by
      rw [keys_map_values]
      exact unique
    have keys := canonicalKeys_orderMembers distinct
    rw [keys_map_values] at keys
    rw [canonical, canonicalMembers_eq_map]
    exact .object_map ih (orderMembers_perm_self _) keys

end Value.Readable

/-- The canonical text of a value without floats is read as the value with the members of all its
objects in canonical order, which has the same canonical text, and so has every value in which index
keys have other places. -/
theorem canonicalText_normal (accepted : Value.ofText text = .ok v)
    (floatless : v.Every Number.IsInteger) :
    (∃ w, Value.ofText v.canonicalText = .ok w ∧ v.Reordered CanonicalKeys w ∧
      w.canonicalText = v.canonicalText) ∧
    ∀ w, v.Reordered SameNamed w → w.canonicalText = v.canonicalText := by
  obtain ⟨fits, readable⟩ := Value.readable_of_ofText accepted
  -- Integers that were read have 64 bits, so they are written as they were read.
  have exact : v.Every Number.Exact := by
    apply (floatless.and fits).mono
    intro number ⟨⟨value, isInteger⟩, fits⟩
    exact fits value isInteger
  have same : ∀ w, v.Reordered SameNamed w → w.canonicalText = v.canonicalText := by
    intro w moved
    rw [Value.canonicalText, Value.canonicalText, moved.canonical_eq readable]
  -- The canonical value is one of those in which index keys have other places.
  have ordered := readable.reordered_canonical
  refine ⟨⟨v.canonical, ?_, ordered, ?_⟩, same⟩
  · have spells := (ordered.every exact).spells_compact
    exact (ordered.readable readable).ofText spells
  · apply same
    exact ordered.mono fun keys moved => CanonicalKeys.sameNamed

/-- An object with a repeated key, the greatest index and keys close to it, and the integers at the
limits of 64 bits. -/
def repeatedValue : Value :=
  .object [
    ("b", .number (.integer 5)),
    ("4294967295", .array [.number (.integer (-9223372036854775808)), .object []]),
    ("02", .object [("7", .null), ("sm", .boolean true), ("0", .number (.integer 0))]),
    ("4294967294", .number (.integer 18446744073709551615)),
    ("10", .number (.integer 1)), ("b", .string "\n")]

/-- The text of the object. -/
def repeatedText : Text :=
  "\x7b\"b\":5,\"4294967295\":[-9223372036854775808,\x7b\x7d]," ++
    "\"02\":\x7b\"7\":null,\"sm\":true,\"0\":0\x7d," ++
      "\"4294967294\":18446744073709551615,\"10\":1,\"b\":\"\\n\"\x7d"

/-- The object is read with the last value of its repeated key in the first place of it, and has a
normal form. -/
theorem canonicalText_normal_repeated :
    Value.ofText repeatedText = .ok repeatedValue.mergeKeys ∧
    repeatedValue.mergeKeys.Every Number.IsInteger ∧
    (∃ w, Value.ofText repeatedValue.mergeKeys.canonicalText = .ok w ∧
      repeatedValue.mergeKeys.Reordered CanonicalKeys w ∧
      w.canonicalText = repeatedValue.mergeKeys.canonicalText) ∧
    ∀ w, repeatedValue.mergeKeys.Reordered SameNamed w →
      w.canonicalText = repeatedValue.mergeKeys.canonicalText := by
  -- The text spells the value with its repeated key, which is merged when the text is read.
  have exact : repeatedValue.Every Number.Exact :=
    .cons (.number ⟨by decide, by decide⟩) <|
      .cons (.array (List.forall_mem_cons.mpr
          ⟨.number ⟨by decide, by decide⟩, List.forall_mem_singleton.mpr .nil⟩)) <|
        .cons (.cons .null (.cons (.boolean true) (.cons (.number ⟨by decide, by decide⟩) .nil))) <|
          .cons (.number ⟨by decide, by decide⟩) <|
            .cons (.number ⟨by decide, by decide⟩) (.cons (.string _) .nil)
  -- That it is read follows from what it spells, so that the reader need not be evaluated.
  have written : repeatedValue.compact = repeatedText := by decide +kernel
  have accepted : Value.ofText repeatedText = .ok repeatedValue.mergeKeys :=
    Value.ofText_of_spells (written ▸ exact.spells_compact) rfl
  have floatless : repeatedValue.mergeKeys.Every Number.IsInteger :=
    .cons (.string _) <|
      .cons (.array (List.forall_mem_cons.mpr
          ⟨.number ⟨_, rfl⟩, List.forall_mem_singleton.mpr .nil⟩)) <|
        .cons (.cons .null (.cons (.boolean true) (.cons (.number ⟨_, rfl⟩) .nil))) <|
          .cons (.number ⟨_, rfl⟩) (.cons (.number ⟨_, rfl⟩) .nil)
  exact ⟨accepted, floatless, canonicalText_normal accepted floatless⟩

end TokenGuard.Json
