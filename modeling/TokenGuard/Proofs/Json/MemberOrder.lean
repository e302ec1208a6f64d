import TokenGuard.Json.Canonical
import TokenGuard.Proofs.Decimal.Digit
import TokenGuard.Proofs.OrderedMap.Lookup

/-! The canonical order of members tells what is found under their keys and in which order the keys
stand that are no index, and it tells nothing else. -/

namespace TokenGuard.Json

variable {α : Type} {c : Char} {key other : Text} {n : Nat} {members others : List (Text × α)}

/-- Digits behind a number that is not zero are those of the number they make up with it. -/
theorem toDigits_foldl {digits : Text} (all : ∀ c ∈ digits, isDigit c = true) (positive : 0 < n) :
    Nat.toDigits 10 (digits.foldl (fun n c => 10 * n + digitValue c) n) =
      Nat.toDigits 10 n ++ digits := by
  -- Each digit multiplies the number in front by ten, so that number stays positive.
  induction digits generalizing n with
  | nil => simp
  | cons c digits ih =>
    obtain ⟨digit, all⟩ := List.forall_mem_cons.mp all
    rw [List.foldl_cons, ih all (by omega), toDigits_mul_add_digitValue positive digit,
      List.append_assoc, List.singleton_append]

/-- A key that is an index is the text of its number. -/
theorem eq_ofNat_of_indexKey? (found : indexKey? key = some n) : key = Text.ofNat n := by
  -- The key passed three tests: digits alone, no leading zero, and a number below the limit.
  unfold indexKey? at found
  split at found
  · simp at found
  · next digits =>
    split at found
    · simp at found
    · next canonical =>
      split at found
      · obtain rfl := Option.some.inj found
        cases key with
        | nil => simp at digits
        | cons c rest =>
          have all : ∀ d ∈ c :: rest, isDigit d = true := by simpa using digits
          obtain ⟨digit, all⟩ := List.forall_mem_cons.mp all
          by_cases zero : c = '0'
          · -- Only zero itself starts with the digit zero.
            have alone : rest = [] := by simpa [zero] using canonical
            rw [zero, alone]
            rfl
          · have positive : 0 < digitValue c := by
              rcases Nat.eq_zero_or_pos (digitValue c) with none | positive
              · have same := digitChar_digitValue digit
                rw [none] at same
                exact absurd same.symm zero
              · exact positive
            -- Without a leading zero the digits are those of the number that they spell.
            have spelled := toDigits_foldl all positive
            rw [toDigits_digitValue digit] at spelled
            simpa [Text.ofNat, digitsValue] using spelled.symm
      · simp at found

/-- The text of a number below the limit is the index key of this number. -/
theorem indexKey?_ofNat (small : n < indexLimit) : indexKey? (Text.ofNat n) = some n := by
  obtain ⟨c, digits, spelled, -⟩ := exists_ofNat_cons n
  have filled : (Text.ofNat n).isEmpty = false := by simp [spelled]
  have all : (Text.ofNat n).all isDigit = true :=
    List.all_eq_true.mpr fun c => isDigit_of_mem_ofNat
  have canonical : ¬ ((Text.ofNat n).head? = some '0' ∧ Text.ofNat n ≠ ['0']) := by
    intro ⟨zero, longer⟩
    -- Zero itself is the one number that is written with a zero in front.
    rcases Nat.eq_zero_or_pos n with none | positive
    · exact longer (by rw [none]; rfl)
    · exact head?_ofNat_ne_zero positive zero
  unfold indexKey?
  rw [if_neg (by simp [filled, all]), if_neg (by simpa using canonical), digitsValue_ofNat,
    if_pos small]

/-- The number of an index key is below the limit. -/
theorem lt_of_indexKey? (found : indexKey? key = some n) : n < indexLimit := by
  -- The last test is the one that counts.
  unfold indexKey? at found
  split at found
  · simp at found
  · split at found
    · simp at found
    · split at found
      · next small => exact Option.some.inj found ▸ small
      · simp at found

/-- A key is an index exactly if it is the text of a number below the limit. -/
theorem indexKey?_eq_some_iff : indexKey? key = some n ↔ n < indexLimit ∧ key = Text.ofNat n := by
  constructor
  · intro found
    exact ⟨lt_of_indexKey? found, eq_ofNat_of_indexKey? found⟩
  · intro ⟨small, written⟩
    rw [written]
    exact indexKey?_ofNat small

example : indexKey? "4294967294" = some 4294967294 ∧ indexKey? "4294967295" = none ∧
    indexKey? "07" = none := by decide +kernel

/-- A key that is the text of a number of 32 bits, the last of which is left out. -/
def IsIndex (key : Text) : Prop := ∃ n, n ≤ 4294967294 ∧ key = Text.ofNat n

/-- The keys that are ordered by their numbers are those of such numbers. -/
theorem isIndex_iff : IsIndex key ↔ (indexKey? key).isSome = true := by
  have limit : indexLimit = 4294967295 := rfl
  -- The limit itself is no index.
  rw [Option.isSome_iff_exists]
  refine exists_congr fun n => ?_
  rw [indexKey?_eq_some_iff, limit]
  exact and_congr_left fun _ => Nat.lt_succ_iff.symm

instance : DecidablePred IsIndex := fun _ => decidable_of_iff _ isIndex_iff.symm

/-- An index key is the text of its place. -/
theorem ofNat_indexOf (index : (indexKey? key).isSome = true) : Text.ofNat (indexOf key) = key := by
  obtain ⟨n, place⟩ := Option.isSome_iff_exists.mp index
  rw [indexOf, place]
  exact (eq_ofNat_of_indexKey? place).symm

/-- The place of an index key is below the limit. -/
theorem indexOf_lt (index : (indexKey? key).isSome = true) : indexOf key < indexLimit := by
  obtain ⟨n, place⟩ := Option.isSome_iff_exists.mp index
  rw [indexOf, place]
  exact lt_of_indexKey? place

/-- No two index keys have the same place. -/
theorem eq_of_indexOf_eq (index : (indexKey? key).isSome = true)
    (index' : (indexKey? other).isSome = true) (same : indexOf key = indexOf other) :
    key = other := by
  rw [← ofNat_indexOf index, same, ofNat_indexOf index']

/-- Index keys of their own, sorted by their places, are the texts of ascending numbers. -/
theorem indices_of_sorted (index : ∀ member ∈ members, (indexKey? member.1).isSome = true)
    (distinct : (members.map Prod.fst).Nodup)
    (sorted : members.Pairwise fun left right => indexOf left.1 ≤ indexOf right.1) :
    (members.map fun member => indexOf member.1).Pairwise (· < ·) ∧
      members.map Prod.fst = (members.map fun member => indexOf member.1).map Text.ofNat := by
  constructor
  · -- The places do not descend, and as no two keys are the same no two places are.
    apply List.pairwise_map.mpr
    refine (sorted.and (List.pairwise_map.mp distinct)).imp_of_mem ?_
    intro left right ofLeft ofRight ⟨ascending, different⟩
    apply Nat.lt_of_le_of_ne ascending
    intro same
    exact different (eq_of_indexOf_eq (index left ofLeft) (index right ofRight) same)
  · -- A key is the text of its place.
    rw [List.map_map]
    refine List.map_congr_left ?_
    intro member inMembers
    exact (ofNat_indexOf (index member inMembers)).symm

/-- Whether a key is no index. -/
def isNamed (key : Text) : Bool := (indexKey? key).isNone

/-- The keys that are no index are told by their text. -/
theorem isNamed_eq_decide (key : Text) : isNamed key = decide (¬ IsIndex key) := by
  cases index : (indexKey? key).isSome <;> simp_all [isNamed, isIndex_iff]

/-- The keys of members that are no index are those of the members that have one. -/
theorem filter_isNamed_keys (members : List (Text × α)) :
    (members.map Prod.fst).filter isNamed =
      (members.filter fun member => isNamed member.1).map Prod.fst :=
  List.filter_map

/-- Members that are sorted by the places of their keys have them in ascending order. -/
theorem pairwise_mergeSort_indexOf (members : List (Text × α)) :
    (members.mergeSort fun left right => indexOf left.1 ≤ indexOf right.1).Pairwise
      fun left right => indexOf left.1 ≤ indexOf right.1 := by
  have pairwise := @List.pairwise_mergeSort _
    (fun left right : Text × α => decide (indexOf left.1 ≤ indexOf right.1))
    (fun a b c ab bc => by simp only [decide_eq_true_eq] at *; omega)
    (fun a b => by simp only [Bool.or_eq_true, decide_eq_true_eq]; omega) members
  simpa using pairwise

/-- Ordering members neither adds nor loses one. -/
theorem orderMembers_perm_self (members : List (Text × α)) :
    (orderMembers members).Perm members := by
  refine ((List.mergeSort_perm _ _).append_right _).trans ?_
  simpa using List.filter_append_perm (fun member => (indexKey? member.1).isSome) members

/-- Ordering members leaves those whose keys are no index in their order. -/
theorem filter_isNamed_orderMembers (members : List (Text × α)) :
    (orderMembers members).filter (fun member => isNamed member.1) =
      members.filter fun member => isNamed member.1 := by
  -- None of those in front is kept, and all of those behind.
  rw [orderMembers, List.filter_append]
  have front : ∀ member ∈ (members.filter fun member => (indexKey? member.1).isSome).mergeSort
      (fun left right => indexOf left.1 ≤ indexOf right.1), ¬ isNamed member.1 = true := by
    intro member sorted
    have indexed := (List.mem_filter.mp ((List.mergeSort_perm _ _).subset sorted)).2
    simp [isNamed, Option.isSome_iff_ne_none.mp indexed]
  rw [List.filter_eq_nil_iff.mpr front, List.nil_append]
  exact List.filter_filter.trans (by simp [isNamed])

/-- Members in another order are ordered in the same way up to the keys that are no index. -/
theorem orderMembers_eq_of_perm (distinct : (members.map Prod.fst).Nodup)
    (same : members.Perm others)
    (named : members.filter (fun member => isNamed member.1) =
      others.filter fun member => isNamed member.1) :
    orderMembers members = orderMembers others := by
  have indexed := same.filter fun member => (indexKey? member.1).isSome
  -- Two index keys with one place are one key, and have one member.
  have front := List.Perm.eq_of_pairwise (fun left right ofLeft ofRight before behind => by
      obtain ⟨first, isIndex⟩ := List.mem_filter.mp ((List.mergeSort_perm _ _).subset ofLeft)
      obtain ⟨second, isIndex'⟩ := List.mem_filter.mp ((List.mergeSort_perm _ _).subset ofRight)
      exact eq_of_mem_of_key_eq distinct first (same.symm.subset second)
        (eq_of_indexOf_eq isIndex isIndex' (Nat.le_antisymm before behind)))
    (pairwise_mergeSort_indexOf _) (pairwise_mergeSort_indexOf _)
    ((List.mergeSort_perm _ _).trans (indexed.trans (List.mergeSort_perm _ _).symm))
  simp only [orderMembers, front]
  exact congrArg (_ ++ ·) named

/-- Members are ordered in the same way exactly if the same is found under every key and the keys
that are no index stand in the same order. -/
theorem orderMembers_eq_iff (distinct : (members.map Prod.fst).Nodup)
    (distinct' : (others.map Prod.fst).Nodup) :
    orderMembers members = orderMembers others ↔
      (∀ key, members.lookup key = others.lookup key) ∧
        (members.map Prod.fst).filter isNamed = (others.map Prod.fst).filter isNamed := by
  constructor
  · intro same
    constructor
    · -- Ordering moves members, under keys that stand once.
      intro key
      have ofMembers := lookup_perm distinct (orderMembers_perm_self members).symm key
      rw [ofMembers, same]
      exact (lookup_perm distinct' (orderMembers_perm_self others).symm key).symm
    · rw [filter_isNamed_keys, filter_isNamed_keys, ← filter_isNamed_orderMembers, same,
        filter_isNamed_orderMembers]
  · rintro ⟨found, named⟩
    -- Two lists in which the same is found have the same members, in two orders.
    have perm := perm_of_lookup_eq distinct distinct' found
    rw [filter_isNamed_keys, filter_isNamed_keys] at named
    refine orderMembers_eq_of_perm distinct perm (eq_of_keys_eq distinct ?_ ?_ named)
    · exact List.filter_sublist.subset
    · exact fun member ofOthers => perm.symm.subset (List.filter_sublist.subset ofOthers)

namespace Value

/-- Canonical items are made one by one. -/
theorem canonicalItems_eq_map (items : List Value) :
    canonical.canonicalItems items = items.map canonical := by
  induction items with
  | nil => rfl
  | cons item items ih => rw [canonical.canonicalItems, ih, List.map_cons]

/-- Canonical members have the keys that they had. -/
theorem canonicalMembers_eq_map (members : List (Text × Value)) :
    canonical.canonicalMembers members = members.map (Prod.map id canonical) := by
  -- Only the values are made canonical here; the order comes later.
  induction members with
  | nil => rfl
  | cons member members ih =>
    rw [canonical.canonicalMembers, ih]
    rfl

end Value

end TokenGuard.Json
