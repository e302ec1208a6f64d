import TokenGuard.Proofs.Json.Decoding
import TokenGuard.Proofs.Json.Spelling
import TokenGuard.Table.Basic

/-! A table that was read is written as a value that is read as this table, in its layout and with
its entries in order. -/

namespace TokenGuard.TokenTable

open Json (Node Numberless Restores Value)

variable {opened : Nat} {node : Node} {value : Value} {table : TokenTable}

/-- A table whose layout can be told from its value: a table of scales has at least one. -/
def Definite : TokenTable → Prop
  | flat _ => True
  | scaled table => table.entries ≠ []

/-- Strings are taken as the entries that they were written for. -/
theorem flatEntries?_strings (entries : List (Text × Text)) :
    flatEntries? (entries.map fun (key, value) => (key, .string value)) = some entries := by
  induction entries with
  | nil => rfl
  | cons entry entries ih =>
    rw [List.map_cons, flatEntries?, ih]
    rfl

/-- Objects of strings are taken as the scales that they were written for. -/
theorem scaledEntries?_flatValues (entries : List (Text × FlatTable)) :
    scaledEntries? (entries.map fun (scale, steps) => (scale, flatValue steps)) =
      some entries := by
  -- The steps of a scale are taken as they stand, and each of them makes the same map again.
  induction entries with
  | nil => rfl
  | cons entry entries ih =>
    obtain ⟨scale, steps⟩ := entry
    simp only [List.map_cons, flatValue, scaledEntries?, flatEntries?_strings,
      Option.bind_eq_bind, Option.bind_some] at ih ⊢
    rw [ih, steps.ofList_entries]
    rfl

/-- Scales are not taken for a flat table: the first one is no string. -/
theorem flatEntries?_flatValues {entries : List (Text × FlatTable)} (scales : entries ≠ []) :
    flatEntries? (entries.map fun (scale, steps) => (scale, flatValue steps)) = none := by
  obtain ⟨first, entries, rfl⟩ := List.exists_cons_of_ne_nil scales
  rfl

/-- A value is taken as the table that it was written for if it tells the layout. -/
theorem ofValue?_toValue (definite : table.Definite) : ofValue? table.toValue = some table := by
  -- The flat layout is tried first, and it fails for a table with a scale.
  cases table with
  | flat table =>
    rw [toValue, flatValue, ofValue?, flatEntries?_strings]
    exact congrArg (some ∘ flat) table.ofList_entries
  | scaled table =>
    rw [toValue, ofValue?, flatEntries?_flatValues definite, scaledEntries?_flatValues]
    exact congrArg (some ∘ scaled) table.ofList_entries

/-- A table is read with the limit of depth far away. -/
theorem value_ofValue_toValue (shallow : opened + 2 < Json.depthLimit) (table : TokenTable) :
    (Node.ofValue table.toValue).value opened = .ok table.toValue := by
  -- A flat table opens one level of depth, and a table of scales one more.
  have ofFlat : ∀ depth, depth + 1 < Json.depthLimit → ∀ table : FlatTable,
      (Node.ofValue (flatValue table)).value depth = .ok (flatValue table) := by
    intro depth shallow table
    exact Node.value_ofValue_object shallow (List.forall_mem_map.mpr fun _ _ => rfl)
  cases table with
  | flat table => exact ofFlat opened (by omega) table
  | scaled table =>
    exact Node.value_ofValue_object (by omega)
      (List.forall_mem_map.mpr fun scale _ => ofFlat (opened + 1) shallow scale.2)

/-- A table is restored if its value tells its layout. -/
theorem restores (shallow : opened + 2 < Json.depthLimit) (definite : table.Definite) :
    Restores (decode opened) toValue table := by
  rw [Restores, decode, value_ofValue_toValue shallow, Json.liftFault]
  simp only [Bind.bind, Except.bind, ofValue?_toValue definite]
  rfl

/-- Members that are taken as scales leave at least one, unless there are none. -/
theorem ne_nil_of_scaledEntries? {members : List (Text × Value)}
    {entries : List (Text × FlatTable)} (filled : members ≠ [])
    (taken : scaledEntries? members = some entries) : entries ≠ [] := by
  -- The first member is taken as a scale, or nothing is taken at all.
  unfold scaledEntries? at taken
  split at taken
  · exact absurd rfl filled
  · simp only [Option.bind_eq_bind, Option.bind_eq_some_iff] at taken
    obtain ⟨steps, -, rest, -, same⟩ := taken
    rw [← Option.some.inj same]
    exact List.cons_ne_nil _ _
  · cases taken

/-- A flat table is restored as a map of strings. -/
theorem restores_flatValue (table : FlatTable) :
    Restores (Json.decodeMap Json.decodeString) flatValue table :=
  Json.restores_map fun entry _ => Json.restores_string entry.2

/-- The value of a table that was taken from a value tells its layout. -/
theorem definite_of_ofValue? (taken : ofValue? value = some table) : table.Definite := by
  cases value with
  | object members =>
    rw [ofValue?] at taken
    split at taken
    · obtain rfl := Option.some.inj taken
      trivial
    · next noStrings =>
      obtain ⟨entries, scales, same⟩ := Option.map_eq_some_iff.mp taken
      obtain rfl := same
      -- Without members there would be nothing that is no string.
      have filled : members ≠ [] := by
        intro none
        rw [none] at noStrings
        cases noStrings
      exact OrderedMap.foldl_insert_ne_nil (.inl (ne_nil_of_scaledEntries? filled scales))
  | _ => cases taken

/-- The value of a decoded table tells its layout. -/
theorem definite_of_decode (decoded : decode opened node = .ok table) : table.Definite := by
  unfold decode at decoded
  obtain ⟨value, -, decoded⟩ := bind_eq_ok_iff.mp decoded
  split at decoded
  · next taken =>
    obtain rfl := Except.ok.inj decoded
    exact definite_of_ofValue? taken
  · cases decoded

/-- A flat table has no numbers. -/
theorem numberless_flatValue (table : FlatTable) : Numberless (flatValue table) :=
  .object (List.forall_mem_map.mpr fun _ _ => .string _)

/-- A table has no numbers. -/
theorem numberless_toValue (table : TokenTable) : Numberless table.toValue := by
  cases table with
  | flat table => exact numberless_flatValue table
  | scaled table => exact .object (List.forall_mem_map.mpr fun scale _ => numberless_flatValue scale.2)

end TokenGuard.TokenTable
