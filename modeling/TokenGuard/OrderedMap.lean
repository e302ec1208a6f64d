import TokenGuard.Text.Basic

/-! Maps from texts that keep the order in which their keys were first inserted. -/

namespace TokenGuard

/-- Entries in order of first insertion, with one entry for each key. -/
structure OrderedMap (α : Type) where
  /-- The entries. -/
  entries : List (Text × α)
  /-- No key occurs twice. -/
  nodup : (entries.map Prod.fst).Nodup
  deriving DecidableEq

namespace OrderedMap

variable {α : Type}

/-- The map without entries. -/
def empty : OrderedMap α := ⟨[], by simp⟩

/-- Put an entry behind the others, or give its value to the entry of the same key. -/
def putEntry (key : Text) (value : α) : List (Text × α) → List (Text × α)
  | [] => [(key, value)]
  | (other, old) :: entries =>
    if other = key then (key, value) :: entries else (other, old) :: putEntry key value entries

/-- Putting an entry adds its key behind the others unless it is among them. -/
theorem keys_putEntry (key : Text) (value : α) (entries : List (Text × α)) :
    (putEntry key value entries).map Prod.fst =
      if key ∈ entries.map Prod.fst then entries.map Prod.fst
      else entries.map Prod.fst ++ [key] := by
  -- The entries before the key are passed over unchanged.
  induction entries with
  | nil => simp [putEntry]
  | cons entry entries ih =>
    obtain ⟨other, old⟩ := entry
    by_cases same : other = key
    · simp [putEntry, same]
    · by_cases later : key ∈ entries.map Prod.fst
      · have := ih; simp_all [putEntry]
      · have := ih; simp_all [putEntry, Ne.symm same]

/-- A new key goes to the end, and a known one keeps its place and takes the new value. -/
def insert (map : OrderedMap α) (key : Text) (value : α) : OrderedMap α :=
  ⟨putEntry key value map.entries, by
    -- Either the keys stay as they are, or one is added that was not among them.
    rw [keys_putEntry]
    split
    · exact map.nodup
    · next fresh =>
      refine List.nodup_append.mpr ⟨map.nodup, by simp, ?_⟩
      intro other known last isKey same
      rw [List.mem_singleton.mp isKey] at same
      exact fresh (same ▸ known)⟩

/-- The map that a list of entries leaves when they are inserted in order. -/
def ofList (entries : List (Text × α)) : OrderedMap α :=
  entries.foldl (fun map entry => map.insert entry.1 entry.2) empty

/-- The map of entries that are written as string literals. -/
def ofStrings (entries : List (String × String)) : OrderedMap Text :=
  ofList (entries.map fun (key, value) => (key.toList, value.toList))

/-- The value of a key. -/
def get? (map : OrderedMap α) (key : Text) : Option α := map.entries.lookup key

/-- The keys in order. -/
def keys (map : OrderedMap α) : List Text := map.entries.map Prod.fst

/-- The number of entries. -/
def size (map : OrderedMap α) : Nat := map.entries.length

/-- Whether there are no entries. -/
def isEmpty (map : OrderedMap α) : Bool := map.entries.isEmpty

end OrderedMap

end TokenGuard
