import TokenGuard.Proofs.OrderedMap.Lookup
import TokenGuard.Table.KeyOrder

/-! Keys are totally ordered, so sorted entries do not show the order they were inserted in. -/

namespace TokenGuard

open Std

variable {α β : Type} {order : Text → Text → Ordering} {entries others : List (Text × α)}

/-- Of two different texts exactly one comes before the other. -/
theorem Text.lt_iff (left right : Text) : left < right ↔ ¬ right < left ∧ left ≠ right := by
  constructor
  · intro less
    refine ⟨fun more => List.lt_irrefl left (List.lt_trans less more), ?_⟩
    rintro rfl
    exact List.lt_irrefl left less
  · rintro ⟨notMore, different⟩
    exact List.not_le.mp fun more => different (List.le_antisymm (List.not_lt.mp notMore) more)

/-- Bytes order texts transitively. -/
instance : TransCmp Text.compareBytes :=
  TransOrd.compareOfLessAndEq_of_lt_trans_of_lt_iff List.lt_trans Text.lt_iff

/-- Only equal texts have equal bytes. -/
instance : LawfulEqCmp Text.compareBytes where
  eq_of_compare {left right} same := by
    unfold Text.compareBytes compareOfLessAndEq at same
    split at same
    · simp at same
    · split at same
      · assumption
      · simp at same

/-- Numbers come before names. -/
def keyClass (key : Text) : Nat := if (numericKey? key).isSome then 0 else 1

/-- The place of a key among numbers, which is the same for all names. -/
def keyPlace (key : Text) : Int := ((numericKey? key).map Binary64.orderKey).getD 0

/-- Keys are compared by their class, then by their place and last by their bytes. -/
theorem compareKeys_eq : compareKeys =
    compareLex (compareOn keyClass) (compareLex (compareOn keyPlace) Text.compareBytes) := by
  funext left right
  -- Numbers have places, and names share one, so among these the bytes decide at once.
  cases ofLeft : numericKey? left with
  | none =>
    cases ofRight : numericKey? right with
    | none => simp [compareKeys, compareLex, compareOn, keyClass, keyPlace, ofLeft, ofRight]
    | some y =>
      have behind : compare 1 0 = Ordering.gt := rfl
      simp [compareKeys, compareLex, compareOn, keyClass, ofLeft, ofRight, behind]
  | some x =>
    cases ofRight : numericKey? right with
    | none =>
      have before : compare 0 1 = Ordering.lt := rfl
      simp [compareKeys, compareLex, compareOn, keyClass, ofLeft, ofRight, before]
    | some y =>
      simp [compareKeys, compareLex, compareOn, keyClass, keyPlace, ofLeft, ofRight,
        Binary64.compareTotal]

/-- The printing order is transitive. -/
instance : TransCmp compareKeys := by
  rw [compareKeys_eq]
  infer_instance

/-- Only equal keys have the same place in the printing order. -/
instance : LawfulEqCmp compareKeys where
  eq_of_compare {left right} same := by
    rw [compareKeys_eq] at same
    have sameRest := (Ordering.then_eq_eq.mp same).2
    exact LawfulEqCmp.eq_of_compare (Ordering.then_eq_eq.mp sameRest).2

/-- Of any two values at least one may stand before the other. -/
theorem isLE_or_isLE {cmp : α → α → Ordering} [OrientedCmp cmp] (a b : α) :
    ((cmp a b).isLE || (cmp b a).isLE) = true := by
  have swapped : cmp b a = (cmp a b).swap := OrientedCmp.eq_swap
  rw [swapped]
  cases cmp a b <;> rfl

/-- Sorting entries neither adds nor loses one. -/
theorem sortByKey_perm_self (order : Text → Text → Ordering) (entries : List (Text × α)) :
    (sortByKey order entries).Perm entries := List.mergeSort_perm _ _

/-- Sorted entries stand in the order of their keys. -/
theorem sortByKey_pairwise_isLE [TransCmp order] (entries : List (Text × α)) :
    (sortByKey order entries).Pairwise fun left right => (order left.1 right.1).isLE = true :=
  List.pairwise_mergeSort (fun _ _ _ => TransCmp.isLE_trans) (fun _ _ => isLE_or_isLE _ _) entries

/-- Sorted entries with keys of their own stand in strictly ascending order. -/
theorem sortByKey_pairwise_lt [TransCmp order] [LawfulEqCmp order]
    (distinct : (entries.map Prod.fst).Nodup) :
    (sortByKey order entries).Pairwise fun left right => order left.1 right.1 = .lt := by
  have keys : ((sortByKey order entries).map Prod.fst).Nodup :=
    ((sortByKey_perm_self order entries).map Prod.fst).nodup_iff.mpr distinct
  -- Neighbours in order could only be the same for the order if they had one key.
  refine (sortByKey_pairwise_isLE entries).imp₂ (fun left right ordered different => ?_)
    (List.pairwise_map.mp keys)
  have unequal : order left.1 right.1 ≠ .eq := mt LawfulEqCmp.eq_of_compare different
  cases compared : order left.1 right.1 with
  | lt => rfl
  | eq => exact absurd compared unequal
  | gt => simp [compared] at ordered

/-- Entries with keys of their own are sorted in the same way whatever their order was. -/
theorem sortByKey_perm [TransCmp order] [LawfulEqCmp order]
    (distinct : (entries.map Prod.fst).Nodup) (same : entries.Perm others) :
    sortByKey order entries = sortByKey order others := by
  -- Any two entries are ordered one way, and both ways only if they are the same.
  refine List.Perm.eq_of_pairwise ?_ (sortByKey_pairwise_isLE entries)
    (sortByKey_pairwise_isLE others)
    ((sortByKey_perm_self order entries).trans (same.trans (sortByKey_perm_self order others).symm))
  intro left right ofEntries ofOthers before behind
  have ofEntries := (sortByKey_perm_self order entries).subset ofEntries
  have ofOthers := same.symm.subset ((sortByKey_perm_self order others).subset ofOthers)
  exact eq_of_mem_of_key_eq distinct ofEntries ofOthers
    (LawfulEqCmp.eq_of_compare (OrientedCmp.isLE_antisymm before behind))

/-- Values that are changed one by one do not influence how their entries are sorted. -/
theorem sortByKey_map (order : Text → Text → Ordering) (f : α → β) (entries : List (Text × α)) :
    sortByKey order (entries.map (Prod.map id f)) =
      (sortByKey order entries).map (Prod.map id f) :=
  Eq.symm (List.map_mergeSort fun _ _ _ _ => rfl)

end TokenGuard
