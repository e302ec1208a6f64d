import TokenGuard.Proofs.Decimal.Integer
import TokenGuard.Proofs.Table.Content
import TokenGuard.Proofs.Table.Lines

/-! Index keys are printed in the order in which they are hashed, which is that of their numbers. -/

namespace TokenGuard

open Json Std

variable {α β : Type} {left right : Text} {entries : List (Text × α)}

/-- Entries whose keys are the texts of ascending numbers. -/
def AscendingIndices (entries : List (Text × α)) : Prop :=
  ∃ numbers : List Nat, numbers.Pairwise (· < ·) ∧
    entries.map Prod.fst = numbers.map Text.ofNat

/-- An index key is read as the number of its place. -/
theorem numericKey?_of_index (index : (indexKey? left).isSome = true) :
    numericKey? left = some ⟨false, Binary64.nearest (indexOf left) 1⟩ := by
  -- An index is below the limit, and numbers of that size are represented exactly.
  have limit : indexLimit = 2 ^ 32 - 1 := rfl
  have small : indexOf left < 2 ^ 53 := by
    have below := indexOf_lt index
    omega
  have spelled := Numeral.ofText?_eq_some_iff.mpr (Numeral.spells_ofNat (indexOf left))
  rw [ofNat_indexOf index] at spelled
  rw [numericKey?, spelled, Option.bind_some, Numeral.toBinary64?_ofNat small]

/-- Of two index keys the one with the smaller place is printed first. -/
theorem compareKeys_of_indexOf_lt (index : (indexKey? left).isSome = true)
    (index' : (indexKey? right).isSome = true) (less : indexOf left < indexOf right) :
    compareKeys left right = .lt := by
  have limit : indexLimit = 2 ^ 32 - 1 := rfl
  have small : indexOf right < 2 ^ 53 := by
    have below := indexOf_lt index'
    omega
  have before := Binary64.nearest_lt_nearest less small
  rw [compareKeys, numericKey?_of_index index, numericKey?_of_index index']
  -- The numbers are not negative, so their magnitudes order them.
  have total : Binary64.compareTotal ⟨false, Binary64.nearest (indexOf left) 1⟩
      ⟨false, Binary64.nearest (indexOf right) 1⟩ = .lt :=
    Int.compare_eq_lt.mpr (Int.ofNat_lt.mpr before)
  dsimp only
  rw [total]
  rfl

/-- Entries that all have index keys are hashed in the order of the places of their keys. -/
theorem orderMembers_eq_mergeSort (index : ∀ entry ∈ entries, (indexKey? entry.1).isSome = true) :
    orderMembers entries =
      entries.mergeSort fun left right => indexOf left.1 ≤ indexOf right.1 := by
  -- No entry is left for the second part, in which those stay that have no index.
  have named : entries.filter (fun entry => (indexKey? entry.1).isNone) = [] := by
    refine List.filter_eq_nil_iff.mpr fun entry member => ?_
    simp [Option.isSome_iff_ne_none.mp (index entry member)]
  rw [orderMembers, List.filter_eq_self.mpr index, named, List.append_nil]

/-- Entries that all have index keys of their own are hashed in ascending order of the places. -/
theorem places_orderMembers (distinct : (entries.map Prod.fst).Nodup)
    (index : ∀ entry ∈ entries, (indexKey? entry.1).isSome = true) :
    ((orderMembers entries).map fun entry => indexOf entry.1).Pairwise (· < ·) ∧
      (orderMembers entries).map Prod.fst =
        ((orderMembers entries).map fun entry => indexOf entry.1).map Text.ofNat := by
  have perm := orderMembers_perm_self entries
  refine indices_of_sorted (fun entry member => index entry (perm.subset member))
    ((perm.map Prod.fst).nodup_iff.mpr distinct) ?_
  rw [orderMembers_eq_mergeSort index]
  exact pairwise_mergeSort_indexOf entries

/-- Entries that all have index keys of their own are printed in the order in which they are
hashed. -/
theorem sortByKey_eq_orderMembers (distinct : (entries.map Prod.fst).Nodup)
    (index : ∀ entry ∈ entries, (indexKey? entry.1).isSome = true) :
    sortByKey compareKeys entries = orderMembers entries := by
  have perm := orderMembers_perm_self entries
  have indexed : ∀ entry ∈ orderMembers entries, (indexKey? entry.1).isSome = true :=
    fun entry member => index entry (perm.subset member)
  -- Both orders are strict, so there is only one way to put the entries into it.
  have hashed : (orderMembers entries).Pairwise
      fun left right => compareKeys left.1 right.1 = .lt :=
    (List.pairwise_map.mp (places_orderMembers distinct index).1).imp_of_mem
      fun ofLeft ofRight less =>
        compareKeys_of_indexOf_lt (indexed _ ofLeft) (indexed _ ofRight) less
  refine List.Perm.eq_of_pairwise ?_ (sortByKey_pairwise_lt distinct) hashed
    ((sortByKey_perm_self compareKeys entries).trans perm.symm)
  intro left right _ _ before behind
  have turned : compareKeys right.1 left.1 = .gt := OrientedCmp.gt_of_lt before
  simp [turned] at behind

/-- The members of an object that is written from entries with index keys stand in the order in which
the entries are printed. -/
theorem orderMembers_map_eq (distinct : (entries.map Prod.fst).Nodup)
    (index : ∀ entry ∈ entries, (indexKey? entry.1).isSome = true) (f : α → β) :
    orderMembers (entries.map (Prod.map id f)) =
      (orderMembers entries).map (Prod.map id f) := by
  -- Printing sorts by keys alone, so the detour through its order shows that the values do not
  -- matter.
  rw [← sortByKey_eq_orderMembers distinct index, ← sortByKey_map]
  refine (sortByKey_eq_orderMembers ?_ ?_).symm
  · rw [keys_map_values]
    exact distinct
  · exact List.forall_mem_map.mpr index

namespace TokenTable

variable {scales : ScaledTable} {scale : Text × FlatTable}

/-- Strings under keys, as the members of an object. -/
def stringMembers (entries : List (Text × Text)) : List (Text × Value) :=
  entries.map (Prod.map id Value.string)

/-- A table with index keys is written as its entries in the order of their places. -/
theorem members_eq_stringMembers {table : FlatTable}
    (index : ∀ entry ∈ table.entries, (indexKey? entry.1).isSome = true) :
    table.members Value.string = stringMembers (orderMembers table.entries) :=
  orderMembers_map_eq table.nodup index Value.string

/-- Steps of which no one belongs to a scale have none of its tokens. -/
theorem filter_tokens_of_notMem {others : List (Text × FlatTable)}
    (other : scale.1 ∉ others.map Prod.fst) :
    (others.flatMap fun (name, steps) =>
      tokensOf (some name) (sortByKey compareKeys steps.entries)).filter
        (fun token => token.scale = some scale.1) = [] := by
  -- A token of the scale would come from steps under its name, and there are none.
  refine List.filter_eq_nil_iff.mpr fun token printed isOwn => other ?_
  obtain ⟨named, member, ofSteps⟩ := List.mem_flatMap.mp printed
  obtain ⟨step, -, rfl⟩ := List.mem_map.mp ofSteps
  have same : named.1 = scale.1 := by simpa using isOwn
  exact same ▸ List.mem_map_of_mem member

/-- The tokens of a scale are printed as those of its sorted steps. -/
theorem filter_printedTokens (member : scale ∈ scales.entries) :
    (scaled scales).printedTokens.filter (fun token => token.scale = some scale.1) =
      tokensOf (some scale.1) (sortByKey compareKeys scale.2.entries) := by
  have perm := sortByKey_perm_self Text.compareBytes scales.entries
  have distinct : ((sortByKey Text.compareBytes scales.entries).map Prod.fst).Nodup :=
    (perm.map Prod.fst).nodup_iff.mpr scales.nodup
  -- No scale before or behind this one has its name.
  obtain ⟨before, after, sorted⟩ := List.append_of_mem (perm.symm.subset member)
  rw [sorted, List.map_append, List.map_cons] at distinct
  have fresh := (List.nodup_cons.mp (List.perm_middle.nodup_iff.mp distinct)).1
  rw [List.mem_append, not_or] at fresh
  have own : (tokensOf (some scale.1) (sortByKey compareKeys scale.2.entries)).filter
      (fun token => token.scale = some scale.1) =
        tokensOf (some scale.1) (sortByKey compareKeys scale.2.entries) := by
    refine List.filter_eq_self.mpr fun token printed => ?_
    obtain ⟨step, -, rfl⟩ := List.mem_map.mp printed
    simp
  rw [printedTokens, sorted, List.flatMap_append, List.flatMap_cons, List.filter_append,
    List.filter_append, filter_tokens_of_notMem fresh.1, filter_tokens_of_notMem fresh.2, own,
    List.nil_append, List.append_nil]

/-- A table whose keys are all indices is printed in the order of its canonical text, which is that
of the numbers of its keys, and so are the steps of each scale whose keys are all indices. -/
theorem lines_follow_canonicalText :
    (∀ table : FlatTable, (∀ entry ∈ table.entries, (indexKey? entry.1).isSome = true) →
      ∃ entries, entries.Perm table.entries ∧ AscendingIndices entries ∧
        (flat table).canonicalText = (Value.object (stringMembers entries)).compact ∧
        ∀ lead, (flat table).lines lead = (tokensOf none entries).map
          fun token => lead ++ token.name ++ ": " ++ token.value ++ ";") ∧
    ∀ scales : ScaledTable, ∃ (members : List (Text × Value)) (tokens : List Token),
      (members.map Prod.fst).Perm scales.keys ∧ tokens.Perm (scaled scales).tokens ∧
      (scaled scales).canonicalText = (Value.object members).compact ∧
      (∀ lead, (scaled scales).lines lead =
        tokens.map fun token => lead ++ token.name ++ ": " ++ token.value ++ ";") ∧
      ∀ scale ∈ scales.entries, (∀ step ∈ scale.2.entries, (indexKey? step.1).isSome = true) →
        ∃ steps, steps.Perm scale.2.entries ∧ AscendingIndices steps ∧
          (scale.1, .object (stringMembers steps)) ∈ members ∧
          tokens.filter (fun token => token.scale = some scale.1) =
            tokensOf (some scale.1) steps := by
  constructor
  · -- The entries in the order in which they are hashed are those that are printed.
    intro table index
    refine ⟨orderMembers table.entries, orderMembers_perm_self _,
      ⟨_, places_orderMembers table.nodup index⟩, ?_, fun lead => ?_⟩
    · rw [canonicalText, Value.canonicalText, toValue, canonical_flatValue,
        members_eq_stringMembers index]
    · rw [lines_eq_map, printedTokens, sortByKey_eq_orderMembers table.nodup index]
  · -- The scales are hashed in an order of their own, so each of them is looked at for itself.
    intro scales
    have perm := orderMembers_perm_self
      (scales.entries.map (Prod.map id fun steps => Value.object (steps.members .string)))
    refine ⟨scales.members fun steps => .object (steps.members .string),
      (scaled scales).printedTokens, ?_, (scaled scales).printedTokens_perm, ?_,
      (scaled scales).lines_eq_map, fun scale member index => ?_⟩
    · exact scales.keys_map _ ▸ perm.map Prod.fst
    · rw [canonicalText, Value.canonicalText, canonical_scaled]
    · refine ⟨orderMembers scale.2.entries, orderMembers_perm_self _,
        ⟨_, places_orderMembers scale.2.nodup index⟩, ?_, ?_⟩
      · rw [← members_eq_stringMembers index]
        exact perm.symm.subset (List.mem_map_of_mem member)
      · rw [filter_printedTokens member, sortByKey_eq_orderMembers scale.2.nodup index]

/-- Keys that were declared in descending order, one of them with more digits than the others, are
printed in the ascending order in which they are hashed. -/
theorem lines_follow_canonicalText_unsorted :
    (∃ entries, entries.Perm [("10", "c"), ("9", "b"), ("0", "a")] ∧ AscendingIndices entries ∧
      (flat ⟨[("10", "c"), ("9", "b"), ("0", "a")], by decide⟩).canonicalText =
        (Value.object (stringMembers entries)).compact ∧
      ∀ lead, (flat ⟨[("10", "c"), ("9", "b"), ("0", "a")], by decide⟩).lines lead =
        (tokensOf none entries).map fun token =>
          lead ++ token.name ++ ": " ++ token.value ++ ";") :=
  lines_follow_canonicalText.1 ⟨[("10", "c"), ("9", "b"), ("0", "a")], by decide⟩ (by decide +kernel)

end TokenTable

end TokenGuard
