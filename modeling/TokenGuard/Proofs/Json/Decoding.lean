import TokenGuard.Json.Decode
import TokenGuard.Json.Printer
import TokenGuard.Proofs.Except
import TokenGuard.Proofs.OrderedMap.Insert

/-! Decoders give back what was written, and what they give satisfies what each of their steps
provides. -/

namespace TokenGuard.Json

variable {α draft : Type} {decode : Decoder α} {write : α → Value}

/-- A decoder gives data back when it reads what is written of them. -/
def Restores (decode : Decoder α) (write : α → Value) (data : α) : Prop :=
  decode (.ofValue (write data)) = .ok data

/-- Nothing is made of a node of the wrong type. -/
theorem wrongType_ne_ok (expected : Text) (node : Node) (data : α) :
    wrongType expected node ≠ .ok data := by
  intro accepted
  -- A number or a string is looked at once more before it is rejected.
  cases node with
  | number value =>
    obtain ⟨_, -, rejected⟩ := bind_eq_ok_iff.mp accepted
    cases rejected
  | string value =>
    obtain ⟨_, -, rejected⟩ := bind_eq_ok_iff.mp accepted
    cases rejected
  | _ => cases accepted

/-- A decoded text has a value that is decoded. -/
theorem Document.of_decode {data : α} {document : Document}
    (decoded : document.decode decode = .ok data) : decode document.root = .ok data := by
  -- Decoding succeeds only if nothing is left behind the value.
  obtain ⟨_, ofRoot, decoded⟩ := bind_eq_ok_iff.mp decoded
  split at decoded
  · cases decoded
  · rw [ofRoot, Except.ok.inj decoded]

/-- Any string is restored. -/
theorem restores_string (text : Text) : Restores decodeString .string text := rfl

/-- Items are restored one by one. -/
theorem decodeItems_ofItems {items : List α} (each : ∀ item ∈ items, Restores decode write item) :
    decodeItems decode (Node.ofValue.ofItems (items.map write)) = .ok items := by
  -- The first item is decoded on its own, and the others behind it.
  induction items with
  | nil => rfl
  | cons item items ih =>
    obtain ⟨first, each⟩ := List.forall_mem_cons.mp each
    have written : decode (.ofValue (write item)) = .ok item := first
    rw [List.map_cons, Node.ofValue.ofItems, decodeItems, written, ih each]
    rfl

/-- A list is restored if its items are. -/
theorem restores_list {items : List α} (each : ∀ item ∈ items, Restores decode write item) :
    Restores (decodeList decode) (fun items => .array (items.map write)) items := by
  rw [Restores, Node.ofValue, decodeList, decodeItems_ofItems each]
  rfl

/-- A list of texts is restored. -/
theorem restores_texts (texts : List Text) : Restores (decodeList decodeString) .ofTexts texts :=
  restores_list fun text _ => restores_string text

/-- Entries are restored one by one, and inserted in order. -/
theorem decodeEntries_ofMembers {map : OrderedMap α} {entries : List (Text × α)}
    (each : ∀ entry ∈ entries, Restores decode write entry.2) :
    decodeEntries decode map
        (Node.ofValue.ofMembers (entries.map fun (key, value) => (key, write value))) =
      .ok (entries.foldl (fun map entry => map.insert entry.1 entry.2) map) := by
  -- The map grows by each entry that was decoded before.
  induction entries generalizing map with
  | nil => rfl
  | cons entry entries ih =>
    obtain ⟨first, each⟩ := List.forall_mem_cons.mp each
    have written : decode (.ofValue (write entry.2)) = .ok entry.2 := first
    rw [List.map_cons, Node.ofValue.ofMembers, decodeEntries, written]
    exact ih each

/-- A map is restored, with its entries in order, if its values are. -/
theorem restores_map {map : OrderedMap α}
    (each : ∀ entry ∈ map.entries, Restores decode write entry.2) :
    Restores (decodeMap decode)
      (fun map => .object (map.entries.map fun (key, value) => (key, write value))) map := by
  rw [Restores, Node.ofValue, decodeMap, decodeEntries_ofMembers each]
  exact congrArg Except.ok map.ofList_entries

/-- The values of decoded entries, and of those before them, are as the decoder provides. -/
theorem of_decodeEntries {holds : α → Prop} {map result : OrderedMap α}
    {members : List (Except Fault Text × Node)}
    (provides : ∀ node value, decode node = .ok value → holds value)
    (before : ∀ entry ∈ map.entries, holds entry.2)
    (decoded : decodeEntries decode map members = .ok result) :
    ∀ entry ∈ result.entries, holds entry.2 := by
  -- The map at hand satisfies the property all along.
  induction members generalizing map with
  | nil =>
    obtain rfl := Except.ok.inj decoded
    exact before
  | cons member members ih =>
    -- The first value is as the decoder provides, and so is the map that it is inserted into.
    rw [decodeEntries] at decoded
    obtain ⟨key, -, decoded⟩ := bind_eq_ok_iff.mp decoded
    obtain ⟨value, ofNode, decoded⟩ := bind_eq_ok_iff.mp decoded
    refine ih ?_ decoded
    intro entry inserted
    rcases OrderedMap.mem_putEntry inserted with new | old
    · rw [new]
      exact provides _ _ ofNode
    · exact before entry old

/-- The values of a decoded map are as the decoder provides. -/
theorem of_decodeMap {holds : α → Prop} {node : Node} {map : OrderedMap α}
    (provides : ∀ node value, decode node = .ok value → holds value)
    (decoded : decodeMap decode node = .ok map) : ∀ entry ∈ map.entries, holds entry.2 := by
  -- Only objects are decoded, and they start with the map without entries.
  unfold decodeMap at decoded
  split at decoded
  · obtain ⟨result, entries, decoded⟩ := bind_eq_ok_iff.mp decoded
    obtain ⟨_, -, same⟩ := bind_eq_ok_iff.mp decoded
    obtain rfl := Except.ok.inj same
    exact of_decodeEntries provides (by simp [OrderedMap.empty]) entries
  · exact absurd decoded (wrongType_ne_ok _ _ _)

namespace Node

/-- Items that are taken as they are written are taken so one after the other. -/
theorem itemValues_ofItems {opened : Nat} {items : List Value}
    (each : ∀ item ∈ items, (ofValue item).value opened = .ok item) :
    value.itemValues opened (ofValue.ofItems items) = .ok items := by
  -- No item has influence on another one.
  induction items with
  | nil => rfl
  | cons item items ih =>
    obtain ⟨first, each⟩ := List.forall_mem_cons.mp each
    rw [ofValue.ofItems, value.itemValues, first, ih each]
    rfl

/-- An array that does not lie too deep is taken as it is written if its items are. -/
theorem value_ofValue_array {opened : Nat} {items : List Value}
    (shallow : opened + 1 < depthLimit)
    (each : ∀ item ∈ items, (ofValue item).value (opened + 1) = .ok item) :
    (ofValue (.array items)).value opened = .ok (.array items) := by
  rw [ofValue, value, if_neg (Nat.not_le.mpr shallow), itemValues_ofItems each]
  rfl

/-- Members whose values are taken as they are written are taken so themselves. -/
theorem memberValues_ofMembers {opened : Nat} {members : List (Text × Value)}
    (each : ∀ member ∈ members, (ofValue member.2).value opened = .ok member.2) :
    value.memberValues opened (ofValue.ofMembers members) = .ok members := by
  -- Written keys are taken as they are.
  induction members with
  | nil => rfl
  | cons member members ih =>
    obtain ⟨first, each⟩ := List.forall_mem_cons.mp each
    rw [ofValue.ofMembers, value.memberValues, first, ih each]
    rfl

/-- An object that does not lie too deep is taken as it is written if its members are. -/
theorem value_ofValue_object {opened : Nat} {members : List (Text × Value)}
    (shallow : opened + 1 < depthLimit)
    (each : ∀ member ∈ members, (ofValue member.2).value (opened + 1) = .ok member.2) :
    (ofValue (.object members)).value opened = .ok (.object members) := by
  rw [ofValue, value, if_neg (Nat.not_le.mpr shallow), memberValues_ofMembers each]
  rfl

end Node

namespace Record

variable {record : Record draft α}

/-- Fields of a record that come once are put into the draft one after the other. -/
theorem gatherMembers_ofMembers {seen : List Text} {gathered : draft}
    {members : List (Text × Value)} (known : ∀ member ∈ members, member.1 ∈ record.fields)
    (fresh : ∀ member ∈ members, member.1 ∉ seen) (distinct : (members.map Prod.fst).Nodup) :
    record.gatherMembers seen gathered (Node.ofValue.ofMembers members) =
      members.foldlM (fun draft member => record.put member.1 (.ofValue member.2) draft)
        gathered := by
  -- The keys gone through grow by the first one, which comes again in none of the others.
  induction members generalizing seen gathered with
  | nil => rfl
  | cons member members ih =>
    obtain ⟨isField, known⟩ := List.forall_mem_cons.mp known
    obtain ⟨isFresh, fresh⟩ := List.forall_mem_cons.mp fresh
    obtain ⟨apart, distinct⟩ := List.nodup_cons.mp distinct
    have later : ∀ other ∈ members, other.1 ∉ member.1 :: seen := by
      intro other inMembers again
      rcases List.mem_cons.mp again with same | before
      · exact apart (same ▸ List.mem_map_of_mem inMembers)
      · exact fresh other inMembers before
    rw [Node.ofValue.ofMembers, gatherMembers, List.foldlM_cons]
    simp only [liftFault, Bind.bind, Except.bind, if_pos isField, if_neg isFresh]
    cases record.put member.1 (.ofValue member.2) gathered with
    | error fault => rfl
    | ok draft => exact ih known later distinct

/-- A record is decoded from an object of its fields by putting them into a draft in order. -/
theorem decode_ofValue_object (source : Source) {members : List (Text × Value)}
    (complete : members.map Prod.fst = record.fields) (distinct : record.fields.Nodup) :
    record.decode source (.ofValue (.object members)) =
      members.foldlM (fun draft member => record.put member.1 (.ofValue member.2) draft)
        record.blank >>= record.finish .missingField := by
  -- The members are exactly the fields, so none of them is unknown and none is missing.
  have known : ∀ member ∈ members, member.1 ∈ record.fields := by
    intro member inMembers
    rw [← complete]
    exact List.mem_map_of_mem inMembers
  rw [Node.ofValue, decode, gatherMembers_ofMembers known (by simp) (complete ▸ distinct)]
  rfl

variable {holds : draft → Prop} {start gathered : draft} {value : α}

/-- Putting a field into a draft keeps what holds of the draft. -/
def Keeps (record : Record draft α) (holds : draft → Prop) : Prop :=
  ∀ field node old new, holds old → record.put field node old = .ok new → holds new

/-- What putting fields keeps holds of the draft of an object. -/
theorem Keeps.of_gatherMembers (keeps : record.Keeps holds) {seen : List Text}
    {members : List (Except Fault Text × Node)} (before : holds start)
    (decoded : record.gatherMembers seen start members = .ok gathered) : holds gathered := by
  -- The draft is handed on from member to member.
  induction members generalizing seen start with
  | nil =>
    obtain rfl := Except.ok.inj decoded
    exact before
  | cons member members ih =>
    -- A field is put, and any other key leaves the draft as it is.
    rw [gatherMembers] at decoded
    obtain ⟨key, -, decoded⟩ := bind_eq_ok_iff.mp decoded
    split at decoded
    · split at decoded
      · cases decoded
      · obtain ⟨new, put, decoded⟩ := bind_eq_ok_iff.mp decoded
        exact ih (keeps _ _ _ _ before put) decoded
    · split at decoded
      · cases decoded
      · obtain ⟨_, -, decoded⟩ := bind_eq_ok_iff.mp decoded
        exact ih before decoded

/-- What putting fields keeps holds of the draft of an array. -/
theorem Keeps.of_gatherItems (keeps : record.Keeps holds) {fields : List Text}
    {items left : List Node} {full : Bool} (before : holds start)
    (decoded : record.gatherItems start fields items = .ok (gathered, full, left)) :
    holds gathered := by
  -- An array may end before the fields do, and then the draft stays as it is.
  induction fields generalizing start items with
  | nil =>
    obtain ⟨rfl, -⟩ := Prod.mk.inj (Except.ok.inj decoded)
    exact before
  | cons field fields ih =>
    cases items with
    | nil =>
      obtain ⟨rfl, -⟩ := Prod.mk.inj (Except.ok.inj decoded)
      exact before
    | cons item items =>
      rw [gatherItems] at decoded
      obtain ⟨new, put, decoded⟩ := bind_eq_ok_iff.mp decoded
      exact ih (keeps _ _ _ _ before put) decoded

/-- A decoded record is finished from a draft of which holds what putting fields keeps. -/
theorem Keeps.of_decode (keeps : record.Keeps holds) {source : Source} {node : Node}
    (blank : holds record.blank) (decoded : record.decode source node = .ok value) :
    ∃ missing gathered, holds gathered ∧ record.finish missing gathered = .ok value := by
  unfold decode at decoded
  split at decoded
  · -- An object is gathered by its keys.
    obtain ⟨gathered, members, decoded⟩ := bind_eq_ok_iff.mp decoded
    obtain ⟨_, -, finished⟩ := bind_eq_ok_iff.mp decoded
    exact ⟨_, gathered, keeps.of_gatherMembers blank members, finished⟩
  · -- An array is gathered by its places.
    obtain ⟨⟨gathered, full, left⟩, items, decoded⟩ := bind_eq_ok_iff.mp decoded
    refine ⟨record.missingElement, gathered, keeps.of_gatherItems blank items, ?_⟩
    -- What is looked at behind the items only decides whether the record is accepted.
    cases full with
    | false =>
      obtain ⟨_, -, decoded⟩ := bind_eq_ok_iff.mp decoded
      obtain ⟨_, finished, same⟩ := bind_eq_ok_iff.mp decoded
      rw [finished, Except.ok.inj same]
    | true =>
      obtain ⟨_, finished, decoded⟩ := bind_eq_ok_iff.mp decoded
      cases source with
      | text =>
        cases left with
        | nil =>
          obtain ⟨_, -, same⟩ := bind_eq_ok_iff.mp decoded
          rw [finished, Except.ok.inj same]
        | cons item left => cases decoded
      | value =>
        cases left with
        | nil => rw [finished, Except.ok.inj decoded]
        | cons item left => cases decoded
  · exact absurd decoded (wrongType_ne_ok _ _ _)

/-- A required field is the one that was put into the draft. -/
theorem required_eq_ok_iff {missing : Text → Misfit} {field : Text} {found : Option α} {value : α} :
    required missing field found = .ok value ↔ found = some value := by
  cases found with
  | none => simp [required, misfit]
  | some other => simp [required]

end Record

end TokenGuard.Json
