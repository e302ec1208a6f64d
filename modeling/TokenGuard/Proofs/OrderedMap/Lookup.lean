import TokenGuard.OrderedMap

/-! Looking up a key among entries, each of which has a key of its own. -/

namespace TokenGuard

variable {α β : Type} {entries others : List (Text × α)} {key : Text} {value : α}

/-- A value is found under a key exactly if they make up an entry. -/
theorem lookup_eq_some_iff_mem (distinct : (entries.map Prod.fst).Nodup) :
    entries.lookup key = some value ↔ (key, value) ∈ entries := by
  rw [List.lookup_eq_some_iff]
  constructor
  · rintro ⟨front, back, rfl, -⟩
    simp
  · intro member
    obtain ⟨front, back, rfl⟩ := List.append_of_mem member
    refine ⟨front, back, rfl, fun entry inFront => ?_⟩
    -- An entry in front with the same key would be a second one.
    rw [List.map_append, List.nodup_append] at distinct
    have different := distinct.2.2 entry.1 (List.mem_map_of_mem inFront) key (by simp)
    simpa using Ne.symm different

/-- Entries with one key are one entry. -/
theorem eq_of_mem_of_key_eq {left right : Text × α} (distinct : (entries.map Prod.fst).Nodup)
    (first : left ∈ entries) (second : right ∈ entries) (same : left.1 = right.1) :
    left = right := by
  have found := (lookup_eq_some_iff_mem distinct).mpr first
  rw [same, (lookup_eq_some_iff_mem distinct).mpr second] at found
  exact Prod.ext same (Option.some.inj found).symm

/-- The order of the entries has no influence on what is found. -/
theorem lookup_perm (distinct : (entries.map Prod.fst).Nodup) (same : entries.Perm others)
    (key : Text) : entries.lookup key = others.lookup key := by
  have distinct' : (others.map Prod.fst).Nodup := (same.map Prod.fst).nodup_iff.mp distinct
  ext value
  rw [lookup_eq_some_iff_mem distinct, lookup_eq_some_iff_mem distinct', same.mem_iff]

/-- Entries with one value for each key are told by what is found under the keys. -/
theorem perm_of_lookup_eq (distinct : (entries.map Prod.fst).Nodup)
    (distinct' : (others.map Prod.fst).Nodup)
    (same : ∀ key, entries.lookup key = others.lookup key) : entries.Perm others := by
  -- Entries with different keys are different themselves.
  have nodup : ∀ {entries : List (Text × α)}, (entries.map Prod.fst).Nodup → entries.Nodup :=
    List.Pairwise.of_map Prod.fst fun _ _ => mt (congrArg Prod.fst)
  refine (List.perm_ext_iff_of_nodup (nodup distinct) (nodup distinct')).mpr fun entry => ?_
  rw [← lookup_eq_some_iff_mem distinct, ← lookup_eq_some_iff_mem distinct', same]

/-- Entries that are taken from others in the order of their keys are told by the keys. -/
theorem eq_of_keys_eq {left right : List (Text × α)} (distinct : (entries.map Prod.fst).Nodup)
    (first : left ⊆ entries) (second : right ⊆ entries)
    (keys : left.map Prod.fst = right.map Prod.fst) : left = right := by
  -- Entry by entry, as a key tells its entry.
  induction left generalizing right with
  | nil => exact (List.map_eq_nil_iff.mp keys.symm).symm
  | cons entry left ih =>
    obtain ⟨other, right, rfl, same, rest⟩ := List.map_eq_cons_iff.mp keys.symm
    obtain ⟨ofEntry, ofLeft⟩ := List.cons_subset.mp first
    obtain ⟨ofOther, ofRight⟩ := List.cons_subset.mp second
    rw [eq_of_mem_of_key_eq distinct ofEntry ofOther same.symm, ih ofLeft ofRight rest.symm]

/-- Changing values leaves the keys as they are. -/
theorem keys_map_values (f : α → β) (entries : List (Text × α)) :
    (entries.map (Prod.map id f)).map Prod.fst = entries.map Prod.fst := by
  rw [List.map_map]
  rfl

/-- Values that are changed one by one are found changed. -/
theorem lookup_map (f : α → β) (entries : List (Text × α)) (key : Text) :
    (entries.map (Prod.map id f)).lookup key = (entries.lookup key).map f := by
  -- The keys are compared as before.
  induction entries with
  | nil => rfl
  | cons entry entries ih =>
    obtain ⟨other, value⟩ := entry
    cases same : key == other <;> simp [List.lookup_cons, same, ih]

end TokenGuard
