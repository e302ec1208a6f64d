import TokenGuard.OrderedMap

/-! Inserting into ordered maps: a new key goes to the end, so a map is what its entries leave when
they are inserted one after the other. -/

namespace TokenGuard

variable {α : Type} {entries : List (Text × α)} {entry : Text × α} {key : Text} {value : α}

namespace OrderedMap

variable {map result : OrderedMap α}

/-- A map is told by its entries. -/
theorem eq_of_entries_eq {left right : OrderedMap α} (same : left.entries = right.entries) :
    left = right := by
  cases left
  cases right
  obtain rfl := same
  rfl

/-- An entry with a new key is put behind the others. -/
theorem putEntry_of_fresh (fresh : key ∉ entries.map Prod.fst) :
    putEntry key value entries = entries ++ [(key, value)] := by
  -- No entry is passed over in favour of an old one, so the end is reached.
  induction entries with
  | nil => rfl
  | cons first entries ih =>
    obtain ⟨different, fresh⟩ : key ≠ first.1 ∧ key ∉ entries.map Prod.fst := by
      simpa [not_or] using fresh
    rw [putEntry, if_neg (Ne.symm different), ih fresh]
    rfl

/-- Among the entries behind putting one are that one and those from before. -/
theorem mem_putEntry (member : entry ∈ putEntry key value entries) :
    entry = (key, value) ∨ entry ∈ entries := by
  induction entries with
  | nil => exact .inl (List.mem_singleton.mp member)
  | cons first entries ih =>
    -- The value is replaced at its key, or the entry is put among those behind the first.
    rw [putEntry] at member
    split at member
    · rcases List.mem_cons.mp member with new | old
      · exact .inl new
      · exact .inr (List.mem_cons_of_mem _ old)
    · rcases List.mem_cons.mp member with isFirst | later
      · exact .inr (isFirst ▸ List.mem_cons_self)
      · rcases ih later with new | old
        · exact .inl new
        · exact .inr (List.mem_cons_of_mem _ old)

/-- Putting an entry leaves at least one. -/
theorem putEntry_ne_nil : putEntry key value entries ≠ [] := by
  cases entries with
  | nil => simp [putEntry]
  | cons first entries =>
    rw [putEntry]
    split <;> simp

/-- Entries that stand behind those of a map in another one are added by inserting them in order. -/
theorem foldl_insert (divided : result.entries = map.entries ++ entries) :
    entries.foldl (fun map entry => map.insert entry.1 entry.2) map = result := by
  induction entries generalizing map with
  | nil => exact eq_of_entries_eq (by rw [divided, List.append_nil, List.foldl_nil])
  | cons first entries ih =>
    -- In the other map the key of the first entry is none of those before it.
    have fresh : first.1 ∉ map.entries.map Prod.fst := by
      have distinct := result.nodup
      rw [divided, List.map_append, List.map_cons] at distinct
      intro known
      exact (List.nodup_append.mp distinct).2.2 _ known _ List.mem_cons_self rfl
    apply ih
    show result.entries = putEntry first.1 first.2 map.entries ++ entries
    rw [putEntry_of_fresh fresh, divided, List.append_assoc]
    rfl

/-- Inserting the entries of a map in order gives the map. -/
theorem ofList_entries (map : OrderedMap α) : ofList map.entries = map := foldl_insert rfl

/-- Inserting at least one entry leaves one. -/
theorem foldl_insert_ne_nil (filled : entries ≠ [] ∨ map.entries ≠ []) :
    (entries.foldl (fun map entry => map.insert entry.1 entry.2) map).entries ≠ [] := by
  -- Inserting never takes an entry away.
  induction entries generalizing map with
  | nil => exact filled.resolve_left (· rfl)
  | cons first entries ih => exact ih (.inr putEntry_ne_nil)

end OrderedMap

end TokenGuard
