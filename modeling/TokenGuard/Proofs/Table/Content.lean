import TokenGuard.Proofs.Json.MemberOrder
import TokenGuard.Proofs.Json.Textual
import TokenGuard.Proofs.Table.KeyOrder
import TokenGuard.Table.Basic

/-! The canonical text of a table tells its content and the order of its keys that are no index,
and so it tells the lines that the table is printed as. -/

namespace TokenGuard

open Json Std

variable {α β : Type} {same : α → α → Prop} {left right : OrderedMap α}
  {order : Text → Text → Ordering} {s t : TokenTable}

/-- Maps that hold the same under every key, and list the keys that are no index in one order. -/
structure OrderedMap.Agrees (same : α → α → Prop) (left right : OrderedMap α) : Prop where
  /-- What is held under a key is the same, if there is anything. -/
  values : ∀ key, Option.Rel same (left.get? key) (right.get? key)
  /-- The keys that are no index stand in one order. -/
  named : left.keys.filter isNamed = right.keys.filter isNamed

/-- Tables of one layout that agree, and do so scale by scale if there are scales. -/
def TokenTable.Agrees : TokenTable → TokenTable → Prop
  | flat left, flat right => left.Agrees Eq right
  | scaled left, scaled right => left.Agrees (OrderedMap.Agrees Eq) right
  | _, _ => False

/-- Optional values are changed to the same exactly if they are related by what they become. -/
theorem map_eq_map_iff_rel {f : α → β} {x y : Option α} :
    x.map f = y.map f ↔ Option.Rel (fun a b => f a = f b) x y := by
  cases x <;> cases y <;> simp

/-- Related optional values are changed to the same if related values are. -/
theorem map_eq_map_of_rel {f : α → β} {x y : Option α} (related : Option.Rel same x y)
    (respects : ∀ a b, same a b → f a = f b) : x.map f = y.map f := by
  cases related with
  | some related => exact congrArg some (respects _ _ related)
  | none => rfl

namespace OrderedMap

/-- An empty map has no entries. -/
theorem entries_of_isEmpty (empty : left.isEmpty = true) : left.entries = [] :=
  List.isEmpty_iff.mp empty

/-- Maps without entries agree. -/
theorem Agrees.of_isEmpty (first : left.isEmpty = true) (second : right.isEmpty = true) :
    left.Agrees same right where
  values key := by
    simp [get?, entries_of_isEmpty first, entries_of_isEmpty second]
  named := by simp [keys, entries_of_isEmpty first, entries_of_isEmpty second]

/-- Maps agree by one relation if they agree by an equivalent one. -/
theorem agrees_congr {other : α → α → Prop} (equivalent : ∀ a b, same a b ↔ other a b) :
    left.Agrees same right ↔ left.Agrees other right := by
  obtain rfl : same = other := funext fun a => funext fun b => propext (equivalent a b)
  rfl

/-- The keys of a map whose values are changed are those of the map. -/
theorem keys_map (f : α → β) (map : OrderedMap α) :
    (map.entries.map (Prod.map id f)).map Prod.fst = map.keys :=
  keys_map_values f map.entries

/-- Changing the values of a map leaves each key with one entry. -/
theorem nodup_keys_map (f : α → β) (map : OrderedMap α) :
    ((map.entries.map (Prod.map id f)).map Prod.fst).Nodup := by
  rw [keys_map]
  exact map.nodup

/-- The members of the object that a map is written as. -/
def members (write : α → Value) (map : OrderedMap α) : List (Text × Value) :=
  orderMembers (map.entries.map (Prod.map id write))

/-- The value of a member is one of the map as it is written. -/
theorem exists_of_mem_members {write : α → Value} {member : Text × Value}
    (inMembers : member ∈ left.members write) : ∃ value, member.2 = write value := by
  obtain ⟨entry, -, rfl⟩ := List.mem_map.mp ((orderMembers_perm_self _).subset inMembers)
  exact ⟨entry.2, rfl⟩

/-- A map is written as an object without members exactly if it is empty. -/
theorem members_eq_nil_iff {write : α → Value} : left.members write = [] ↔ left.isEmpty = true := by
  rw [← List.length_eq_zero_iff, members, (orderMembers_perm_self _).length_eq]
  simp [isEmpty]

/-- Two maps are written as one object exactly if they agree in how their values are written. -/
theorem members_eq_iff (write : α → Value) :
    left.members write = right.members write ↔
      left.Agrees (fun a b => write a = write b) right := by
  -- Members in order are told by what is found under each key and by the order of the keys that are
  -- no index.
  rw [members, members,
    orderMembers_eq_iff (nodup_keys_map write left) (nodup_keys_map write right)]
  simp only [lookup_map, keys_map, map_eq_map_iff_rel]
  exact ⟨fun ⟨values, named⟩ => ⟨values, named⟩, fun ⟨values, named⟩ => ⟨values, named⟩⟩

/-- Maps that agree have the same entries, in whatever order, if what is the same for them is
changed to the same. -/
theorem Agrees.perm_map (agrees : left.Agrees same right) {f : α → β}
    (respects : ∀ a b, same a b → f a = f b) :
    (left.entries.map (Prod.map id f)).Perm (right.entries.map (Prod.map id f)) := by
  -- With one entry for each key, what is found under the keys decides which entries there are.
  refine perm_of_lookup_eq (nodup_keys_map f left) (nodup_keys_map f right) fun key => ?_
  rw [lookup_map, lookup_map]
  exact map_eq_map_of_rel (agrees.values key) respects

/-- Maps that agree are sorted to the same, if what is the same for them is changed to the same. -/
theorem Agrees.sortByKey_eq [TransCmp order] [LawfulEqCmp order] (agrees : left.Agrees same right)
    {f : α → β} (respects : ∀ a b, same a b → f a = f b) :
    (sortByKey order left.entries).map (Prod.map id f) =
      (sortByKey order right.entries).map (Prod.map id f) := by
  rw [← sortByKey_map, ← sortByKey_map]
  exact sortByKey_perm (nodup_keys_map f left) (agrees.perm_map respects)

end OrderedMap

namespace TokenTable

/-- The canonical value of an object has the canonical values of its members in order. -/
theorem canonical_object (f : α → Value) (entries : List (Text × α)) :
    (Value.object (entries.map (Prod.map id f))).canonical =
      .object (orderMembers (entries.map (Prod.map id fun value => (f value).canonical))) := by
  rw [Value.canonical, Value.canonicalMembers_eq_map, List.map_map]
  rfl

/-- A flat table is written as an object of strings in canonical order. -/
theorem canonical_flatValue (table : FlatTable) :
    (flatValue table).canonical = .object (table.members .string) :=
  canonical_object Value.string table.entries

/-- A table of scales is written as an object of such objects in canonical order. -/
theorem canonical_scaled (table : ScaledTable) :
    (scaled table).toValue.canonical =
      .object (table.members fun steps => .object (steps.members .string)) := by
  -- The scales are put into canonical order one by one before their table is.
  have inner : (fun steps : FlatTable => (flatValue steps).canonical) =
      fun steps => .object (steps.members .string) := funext canonical_flatValue
  rw [OrderedMap.members, ← inner]
  exact canonical_object flatValue table.entries

/-- An object of textual values is textual. -/
theorem textual_object {write : α → Value} (textual : ∀ value, Textual (write value))
    (map : OrderedMap α) : Textual (.object (map.members write)) := by
  refine .object fun member inMembers => ?_
  obtain ⟨value, same⟩ := OrderedMap.exists_of_mem_members inMembers
  exact same ▸ textual value

/-- The canonical value of a table has strings and objects alone. -/
theorem textual_canonical (table : TokenTable) : Textual table.toValue.canonical := by
  cases table with
  | flat table =>
    rw [toValue, canonical_flatValue]
    exact textual_object .string table
  | scaled table =>
    rw [canonical_scaled]
    exact textual_object (fun steps => textual_object .string steps) table

/-- Tables have one canonical text exactly if they have one canonical value. -/
theorem canonicalText_eq_iff_canonical_eq :
    s.canonicalText = t.canonicalText ↔ s.toValue.canonical = t.toValue.canonical := by
  constructor
  · intro sameText
    -- A textual value is told from its compact text, as it ends where the text does.
    have written : s.toValue.canonical.compact ++ [] = t.toValue.canonical.compact ++ [] :=
      congrArg (· ++ []) sameText
    exact (s.textual_canonical.compact_append_inj t.textual_canonical written).1
  · exact congrArg Value.compact

/-- An object of strings is one of objects only if both are empty. -/
theorem flat_members_eq_iff {left : FlatTable} {right : ScaledTable} :
    left.members .string = right.members (fun steps => .object (steps.members .string)) ↔
      left.isEmpty = true ∧ right.isEmpty = true := by
  constructor
  · intro same
    -- The value of a member would be a string and an object.
    have nothing : left.members .string = [] := by
      refine List.eq_nil_iff_forall_not_mem.mpr fun member inLeft => ?_
      obtain ⟨text, isString⟩ := OrderedMap.exists_of_mem_members inLeft
      obtain ⟨steps, isObject⟩ := OrderedMap.exists_of_mem_members (same ▸ inLeft)
      simp [isString] at isObject
    exact ⟨OrderedMap.members_eq_nil_iff.mp nothing,
      OrderedMap.members_eq_nil_iff.mp (same ▸ nothing)⟩
  · rintro ⟨first, second⟩
    rw [OrderedMap.members_eq_nil_iff.mpr first, OrderedMap.members_eq_nil_iff.mpr second]

/-- Flat tables are written as one object exactly if they agree. -/
theorem members_string_eq_iff {left right : FlatTable} :
    left.members .string = right.members .string ↔ left.Agrees Eq right := by
  rw [OrderedMap.members_eq_iff]
  exact OrderedMap.agrees_congr fun a b => by rw [Value.string.injEq]

/-- Tables have one canonical value exactly if both are empty or they agree. -/
theorem canonical_eq_iff : s.toValue.canonical = t.toValue.canonical ↔
    (s.isEmpty = true ∧ t.isEmpty = true) ∨ s.Agrees t := by
  -- Empty tables of one layout agree, and tables of different layouts never do.
  cases s with
  | flat left =>
    cases t with
    | flat right =>
      rw [toValue, toValue, canonical_flatValue, canonical_flatValue, Value.object.injEq,
        members_string_eq_iff]
      exact (or_iff_right_of_imp fun empty => OrderedMap.Agrees.of_isEmpty empty.1 empty.2).symm
    | scaled right =>
      rw [canonical_scaled, toValue, canonical_flatValue, Value.object.injEq, flat_members_eq_iff]
      exact (or_iff_left_of_imp False.elim).symm
  | scaled left =>
    cases t with
    | flat right =>
      rw [canonical_scaled, toValue, canonical_flatValue, Value.object.injEq, eq_comm,
        flat_members_eq_iff, and_comm]
      exact (or_iff_left_of_imp False.elim).symm
    | scaled right =>
      rw [canonical_scaled, canonical_scaled, Value.object.injEq, OrderedMap.members_eq_iff]
      have inner : ∀ a b : FlatTable, Value.object (a.members .string) =
          .object (b.members .string) ↔ a.Agrees Eq b :=
        fun a b => by rw [Value.object.injEq, members_string_eq_iff]
      rw [OrderedMap.agrees_congr inner]
      exact (or_iff_right_of_imp fun empty => OrderedMap.Agrees.of_isEmpty empty.1 empty.2).symm

/-- Flat tables that agree are printed as the same lines. -/
theorem flatLines_eq_of_agrees {left right : FlatTable} (agrees : left.Agrees Eq right)
    (lead : Text) : flatLines lead left = flatLines lead right := by
  have sorted : (sortByKey compareKeys left.entries).map (Prod.map id id) =
      (sortByKey compareKeys right.entries).map (Prod.map id id) :=
    agrees.sortByKey_eq fun _ _ same => same
  simp only [Prod.map_id, List.map_id] at sorted
  rw [flatLines, flatLines, sorted]

/-- Only the sorted steps of a scale matter for its lines. -/
theorem scaledLines_eq_flatMap (lead : Text) (table : ScaledTable) :
    scaledLines lead table =
      ((sortByKey Text.compareBytes table.entries).map
        (Prod.map id fun steps => sortByKey compareKeys steps.entries)).flatMap
          fun scaled => scaled.2.map fun (step, value) =>
            line lead (scaled.1 ++ ['-'] ++ step) value := by
  rw [List.flatMap_map]
  rfl

/-- Tables of scales that agree are printed as the same lines. -/
theorem scaledLines_eq_of_agrees {left right : ScaledTable}
    (agrees : left.Agrees (OrderedMap.Agrees Eq) right) (lead : Text) :
    scaledLines lead left = scaledLines lead right := by
  rw [scaledLines_eq_flatMap, scaledLines_eq_flatMap, agrees.sortByKey_eq]
  intro left right agrees
  have sorted : (sortByKey compareKeys left.entries).map (Prod.map id id) =
      (sortByKey compareKeys right.entries).map (Prod.map id id) :=
    agrees.sortByKey_eq fun _ _ same => same
  simpa only [Prod.map_id, List.map_id] using sorted

/-- Tables that agree are printed as the same lines. -/
theorem lines_eq_of_agrees (agrees : s.Agrees t) (lead : Text) : s.lines lead = t.lines lead := by
  cases s with
  | flat left =>
    cases t with
    | flat right => exact flatLines_eq_of_agrees agrees lead
    | scaled right => exact agrees.elim
  | scaled left =>
    cases t with
    | flat right => exact agrees.elim
    | scaled right => exact scaledLines_eq_of_agrees agrees lead

/-- A table without entries is printed as no lines. -/
theorem lines_of_isEmpty (empty : s.isEmpty = true) (lead : Text) : s.lines lead = [] := by
  cases s with
  | flat table =>
    simp [lines, flatLines, sortByKey, OrderedMap.entries_of_isEmpty empty]
  | scaled table =>
    simp [lines, scaledLines, sortByKey, OrderedMap.entries_of_isEmpty empty]

/-- Two tables have one canonical text exactly if both are empty or they agree, and if they have,
they are printed as the same lines. -/
theorem canonicalText_eq_iff (s t : TokenTable) :
    (s.canonicalText = t.canonicalText ↔
      (s.isEmpty = true ∧ t.isEmpty = true) ∨ s.Agrees t) ∧
    (s.canonicalText = t.canonicalText → ∀ lead, s.lines lead = t.lines lead) := by
  have content : s.canonicalText = t.canonicalText ↔
      (s.isEmpty = true ∧ t.isEmpty = true) ∨ s.Agrees t :=
    canonicalText_eq_iff_canonical_eq.trans canonical_eq_iff
  refine ⟨content, fun sameText lead => ?_⟩
  -- Empty tables of two layouts do not agree, but neither has a line.
  rcases content.mp sameText with ⟨first, second⟩ | agrees
  · rw [lines_of_isEmpty first, lines_of_isEmpty second]
  · exact lines_eq_of_agrees agrees lead

end TokenTable

end TokenGuard
