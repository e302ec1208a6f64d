import TokenGuard.Proofs.Json.Decoding
import TokenGuard.Proofs.Json.Reading

/-! What is read from a text can be read again: its integers have 64 bits, its arrays and objects
do not lie too deep, and none of its objects has two members with one key. -/

namespace TokenGuard.Json

variable {kind : Number → Prop} {read : Text → Reading} {v w : Value} {node : Node}
  {number : Number} {items : List Node} {members : List (Except Fault Text × Node)}
  {kept others : List (Text × Value)} {holds : Value → Prop} {text : Text} {opened : Nat}

/-- A number whose integers have 64 bits. -/
def Number.Fits (number : Number) : Prop := ∀ value, number = .integer value → number.Exact

/-- A node all of whose numbers are of one kind, as far as they are in range. -/
inductive Node.Every (kind : Number → Prop) : Node → Prop
  | null : Every kind .null
  | boolean (value : Bool) : Every kind (.boolean value)
  | number {value : Except Fault Number} (ofKind : ∀ number, value = .ok number → kind number) :
      Every kind (.number value)
  | string (value : Except Fault Text) : Every kind (.string value)
  | array {items : List Node} {stop : ArrayStop} (inner : ∀ item ∈ items, Every kind item) :
      Every kind (.array items stop)
  | object {members : List (Except Fault Text × Node)} {stop : ObjectStop}
      (inner : ∀ member ∈ members, Every kind member.2) : Every kind (.object members stop)
  | broken (cause : Break) : Every kind (.broken cause)

/-- A value that can be read inside `opened` arrays and objects. -/
inductive Value.Readable : Nat → Value → Prop
  | null {opened : Nat} : Readable opened .null
  | boolean {opened : Nat} (value : Bool) : Readable opened (.boolean value)
  | number {opened : Nat} (value : Number) : Readable opened (.number value)
  | string {opened : Nat} (text : Text) : Readable opened (.string text)
  | array {opened : Nat} {items : List Value} (shallow : opened + 1 < depthLimit)
      (inner : ∀ item ∈ items, Readable (opened + 1) item) : Readable opened (.array items)
  | object {opened : Nat} {members : List (Text × Value)} (shallow : opened + 1 < depthLimit)
      (distinct : (members.map Prod.fst).Nodup)
      (inner : ∀ member ∈ members, Readable (opened + 1) member.2) :
      Readable opened (.object members)

/-- The value of a number that was read is an integer of 64 bits or a float. -/
theorem NumberParts.fits_of_value {parts : NumberParts} (taken : parts.value = .ok number) :
    number.Fits := by
  intro value isInteger
  rw [isInteger] at taken ⊢
  -- What is scaled by a power of ten never is an integer.
  have noFloat : parts.float.map Number.float ≠ .ok (.integer value) := by
    intro same
    obtain ⟨_, -, same⟩ := map_eq_ok_iff.mp same
    cases same
  simp only [NumberParts.value] at taken
  split at taken
  · exact absurd taken noFloat
  · -- Digits alone make an integer if it has 64 bits, which one with a sign and one without it do up
    -- to limits of their own.
    split at taken
    · split at taken
      · next bounds =>
        -- A negative integer is the opposite of a number up to two to the power of 63.
        obtain ⟨-, small⟩ :
            0 < digitsValue parts.whole ∧ digitsValue parts.whole ≤ Nat.pow 2 63 := by
          simpa using bounds
        obtain rfl : -(digitsValue parts.whole : Int) = value :=
          Number.integer.inj (Except.ok.inj taken)
        show -(Nat.pow 2 63 : Int) ≤ _ ∧ _ ≤ (integerLimit : Int)
        omega
      · exact absurd taken noFloat
    · split at taken
      · next small =>
        obtain rfl : (digitsValue parts.whole : Int) = value :=
          Number.integer.inj (Except.ok.inj taken)
        show -(Nat.pow 2 63 : Int) ≤ _ ∧ _ ≤ (integerLimit : Int)
        omega
      · exact absurd taken noFloat

namespace Node

/-- A word has no numbers that its node has not. -/
theorem every_readWord (every : node.Every kind) (word text : Text) :
    (readWord node word text).1.Every kind := by
  -- Letter by letter the word is either completed or broken off.
  induction word generalizing text with
  | nil => exact every
  | cons letter word ih =>
    cases text with
    | nil => exact .broken _
    | cons c text =>
      rw [readWord]
      split
      · exact ih text
      · exact .broken _

/-- A number that is read fits. -/
theorem every_readNumberNode (negative : Bool) (text : Text) :
    (readNumberNode negative text).1.Every Number.Fits := by
  rw [readNumberNode]
  split
  · exact .number fun number taken => NumberParts.fits_of_value taken
  · exact .broken _

/-- A string has no numbers. -/
theorem every_readStringNode (text : Text) : (readStringNode text).1.Every kind := by
  rw [readStringNode]
  split
  · exact .string _
  · exact .broken _

/-- Items have the numbers that the reader of values reads. -/
theorem every_readItems (each : ∀ text, (read text).1.Every kind) (fuel : Nat) (text : Text) :
    ∀ item ∈ (readItems read fuel text).1, item.Every kind := by
  -- Each item takes one of the fuel, and what is read before it runs out is kept.
  induction fuel generalizing text with
  | zero => simp [readItems]
  | succ fuel ih =>
    have first := each text
    rw [readItems]
    -- Wherever the items end, the first one is among them.
    split
    · next node ofFirst =>
      rw [ofFirst] at first
      simpa using first
    · next node rest ofFirst =>
      rw [ofFirst] at first
      have alone : ∀ item ∈ [node], item.Every kind := by simpa using first
      split
      · exact alone
      · -- A bracket closes the items, and what is neither that nor a comma breaks them off.
        split
        · exact alone
        · split
          · -- Behind a comma there are further items, unless the text ends or a bracket follows.
            split
            · exact alone
            · exact alone
            · exact List.forall_mem_cons.mpr ⟨first, ih _⟩
          · exact alone

/-- The value of a member has the numbers that the reader of values reads. -/
theorem every_readMemberValue (each : ∀ text, (read text).1.Every kind) (text : Text) :
    (readMemberValue read text).1.Every kind := by
  -- Without a colon the member is broken off.
  rw [readMemberValue]
  split
  · exact .broken _
  · split
    · exact each _
    · exact .broken _

/-- Members have the numbers that the reader of values reads. -/
theorem every_readMembers (each : ∀ text, (read text).1.Every kind) (fuel : Nat) (text : Text) :
    ∀ member ∈ (readMembers read fuel text).1, member.2.Every kind := by
  -- As for items, with a key in front of each value.
  induction fuel generalizing text with
  | zero => simp [readMembers]
  | succ fuel ih =>
    cases text with
    | nil => simp [readMembers]
    | cons quote text =>
      rw [readMembers]
      -- Without a key there is no member, and behind a key its value comes first.
      split
      · simp
      · split
        · simp
        · next rest _ =>
          have first := every_readMemberValue each rest
          simp only
          split
          · next node ofFirst =>
            rw [ofFirst] at first
            simpa using first
          · next node rest ofFirst =>
            rw [ofFirst] at first
            have alone : ∀ member ∈ [(stringValue text, node)], member.2.Every kind := by
              simpa using first
            split
            · exact alone
            · -- As with items, the brace and the comma decide whether other members follow.
              split
              · exact alone
              · split
                · split
                  · exact alone
                  · exact alone
                  · exact List.forall_mem_cons.mpr ⟨first, ih _⟩
                · exact alone

/-- All numbers that are read fit. -/
theorem every_readValue (depth : Nat) (text : Text) :
    (readValue depth text).1.Every Number.Fits := by
  -- The reader of one level is handed to the level around it.
  induction depth generalizing text with
  | zero => exact .broken _
  | succ depth ih =>
    rw [readValue]
    split
    · exact .broken _
    · next c rest _ =>
      -- The first character tells what kind of value follows.
      repeat' split
      · exact every_readWord .null "ull" rest
      · exact every_readWord (.boolean true) "rue" rest
      · exact every_readWord (.boolean false) "alse" rest
      · exact every_readNumberNode true rest
      · exact every_readNumberNode false (c :: rest)
      · exact every_readStringNode rest
      · rw [readArray]
        split
        · exact .array (by simp)
        · exact .array (by simp)
        · exact .array (every_readItems ih depth _)
      · rw [readObject]
        split
        · exact .object (by simp)
        · exact .object (by simp)
        · exact .object (every_readMembers ih depth _)
      · exact .broken _

/-- All numbers of a document fit. -/
theorem every_ofText (text : Text) : (Document.ofText text).root.Every Number.Fits := by
  -- Whatever stands behind the value, the value is the one that was read.
  have every := every_readValue (text.length + 1) text
  rw [Document.ofText]
  split
  · next root rest ofText =>
    rw [ofText] at every
    exact every
  · next root ofText =>
    rw [ofText] at every
    exact every

/-- What holds of the values of items holds of the items of the list that they are taken as. -/
theorem forall_of_itemValues {values : List Value}
    (each : ∀ item ∈ items, ∀ v, item.value opened = .ok v → holds v)
    (taken : value.itemValues opened items = .ok values) : ∀ v ∈ values, holds v := by
  -- Taking the list means taking every item, so each value comes from one of them.
  induction items generalizing values with
  | nil =>
    obtain rfl := Except.ok.inj taken
    simp
  | cons item items ih =>
    obtain ⟨ofFirst, each⟩ := List.forall_mem_cons.mp each
    obtain ⟨first, takenFirst, taken⟩ := bind_eq_ok_iff.mp taken
    obtain ⟨rest, takenRest, same⟩ := bind_eq_ok_iff.mp taken
    obtain rfl := Except.ok.inj same
    exact List.forall_mem_cons.mpr ⟨ofFirst first takenFirst, ih each takenRest⟩

/-- What holds of the values of members holds of the members of the list that they are taken as. -/
theorem forall_of_memberValues {values : List (Text × Value)}
    (each : ∀ member ∈ members, ∀ v, member.2.value opened = .ok v → holds v)
    (taken : value.memberValues opened members = .ok values) :
    ∀ member ∈ values, holds member.2 := by
  -- As for items; the keys are taken as well, but nothing is said of them.
  induction members generalizing values with
  | nil =>
    obtain rfl := Except.ok.inj taken
    simp
  | cons member members ih =>
    obtain ⟨ofFirst, each⟩ := List.forall_mem_cons.mp each
    obtain ⟨key, -, taken⟩ := bind_eq_ok_iff.mp taken
    obtain ⟨first, takenFirst, taken⟩ := bind_eq_ok_iff.mp taken
    obtain ⟨rest, takenRest, same⟩ := bind_eq_ok_iff.mp taken
    obtain rfl := Except.ok.inj same
    exact List.forall_mem_cons.mpr ⟨ofFirst first takenFirst, ih each takenRest⟩

end Node

namespace Value

/-- Members are put as the entries of a map are. -/
theorem putMember_eq_putEntry (key : Text) (value : Value) (members : List (Text × Value)) :
    putMember key value members = OrderedMap.putEntry key value members := by
  induction members with
  | nil => rfl
  | cons member members ih => rw [putMember, OrderedMap.putEntry, ih]

/-- Items are merged one by one. -/
theorem mergeItems_eq_map (items : List Value) :
    mergeKeys.mergeItems items = items.map mergeKeys := by
  induction items with
  | nil => rfl
  | cons item items ih => rw [mergeKeys.mergeItems, ih, List.map_cons]

/-- Merged members have keys of their own, and values of which holds what holds of each before. -/
theorem mergeMembers_keeps (distinct : (kept.map Prod.fst).Nodup)
    (before : ∀ member ∈ kept, holds member.2)
    (each : ∀ member ∈ others, holds member.2.mergeKeys) :
    ((mergeKeys.mergeMembers kept others).map Prod.fst).Nodup ∧
      ∀ member ∈ mergeKeys.mergeMembers kept others, holds member.2 := by
  -- What is known of the members kept so far is carried from one member to the next.
  induction others generalizing kept with
  | nil => exact ⟨distinct, before⟩
  | cons member others ih =>
    obtain ⟨ofFirst, each⟩ := List.forall_mem_cons.mp each
    rw [mergeKeys.mergeMembers, putMember_eq_putEntry]
    -- The members kept so far are the entries of a map, into which the next one is inserted.
    have inserted := (OrderedMap.insert ⟨kept, distinct⟩ member.1 member.2.mergeKeys).nodup
    refine ih inserted ?_ each
    intro entry inEntries
    rcases OrderedMap.mem_putEntry inEntries with new | old
    · rw [new]
      exact ofFirst
    · exact before entry old

/-- Members with keys of their own stay in their order when they are merged. -/
theorem mergeMembers_eq_append (distinct : ((kept ++ others).map Prod.fst).Nodup)
    (each : ∀ member ∈ others, member.2.mergeKeys = member.2) :
    mergeKeys.mergeMembers kept others = kept ++ others := by
  -- The members kept so far are those in front, as they stand.
  induction others generalizing kept with
  | nil => exact (List.append_nil kept).symm
  | cons member others ih =>
    obtain ⟨ofFirst, each⟩ := List.forall_mem_cons.mp each
    -- The key of the first member is new, so the member goes to the end.
    have fresh : member.1 ∉ kept.map Prod.fst := by
      intro known
      rw [List.map_append, List.map_cons] at distinct
      exact (List.nodup_append.mp distinct).2.2 _ known _ List.mem_cons_self rfl
    have divided : kept ++ member :: others = kept ++ [(member.1, member.2)] ++ others := by simp
    rw [divided] at distinct
    rw [mergeKeys.mergeMembers, ofFirst, putMember_eq_putEntry, OrderedMap.putEntry_of_fresh fresh,
      ih distinct each, divided]

/-- The value of a node can be read inside as many arrays and objects once its keys are merged, and
its numbers are those of the node. -/
theorem readable_mergeKeys (every : node.Every kind) (taken : node.value opened = .ok v) :
    v.mergeKeys.Every kind ∧ v.mergeKeys.Readable opened := by
  -- By induction on the node, one level deeper for each array and each object around it.
  induction every generalizing opened v with
  | null =>
    obtain rfl := Except.ok.inj taken
    exact ⟨.null, .null⟩
  | boolean value =>
    obtain rfl := Except.ok.inj taken
    exact ⟨.boolean value, .boolean value⟩
  | number ofKind =>
    obtain ⟨number, inRange, rfl⟩ := map_eq_ok_iff.mp taken
    exact ⟨.number (ofKind number inRange), .number number⟩
  | string value =>
    obtain ⟨text, -, rfl⟩ := map_eq_ok_iff.mp taken
    exact ⟨.string text, .string text⟩
  | @array items stop inner ih =>
    rw [Node.value] at taken
    split at taken
    · cases taken
    · next shallow =>
      obtain ⟨values, ofItems, taken⟩ := bind_eq_ok_iff.mp taken
      obtain ⟨_, -, same⟩ := bind_eq_ok_iff.mp taken
      obtain rfl := Except.ok.inj same
      have each := Node.forall_of_itemValues (fun item member v => ih item member) ofItems
      rw [mergeKeys, mergeItems_eq_map]
      exact ⟨.array (List.forall_mem_map.mpr fun item member => (each item member).1),
        .array (Nat.lt_of_not_le shallow)
          (List.forall_mem_map.mpr fun item member => (each item member).2)⟩
  | @object members stop inner ih =>
    rw [Node.value] at taken
    split at taken
    · cases taken
    · next shallow =>
      obtain ⟨values, ofMembers, taken⟩ := bind_eq_ok_iff.mp taken
      obtain ⟨_, -, same⟩ := bind_eq_ok_iff.mp taken
      obtain rfl := Except.ok.inj same
      have each := Node.forall_of_memberValues (fun member inMembers v => ih member inMembers)
        ofMembers
      -- Before the first member none is kept.
      obtain ⟨distinct, merged⟩ := @mergeMembers_keeps [] values
        (fun w => w.Every kind ∧ w.Readable (opened + 1)) List.nodup_nil (by simp) each
      rw [mergeKeys]
      exact ⟨.object fun member inMembers => (merged member inMembers).1,
        .object (Nat.lt_of_not_le shallow) distinct fun member inMembers =>
          (merged member inMembers).2⟩
  | broken cause => cases taken

/-- The value of a text can be read, and its numbers are integers of 64 bits and floats. -/
theorem readable_of_ofText (accepted : Value.ofText text = .ok v) :
    v.Every Number.Fits ∧ v.Readable 0 := by
  -- A document is decoded from its root, whose keys are merged last.
  have decoded := Document.of_decode accepted
  split at decoded
  · next value taken =>
    obtain rfl := Except.ok.inj decoded
    exact readable_mergeKeys (Node.every_ofText text) taken
  · cases decoded

/-- What is read from a text that spells a value is the value with its keys merged. -/
theorem ofText_of_spells (spells : Spells v text) (taken : (Node.ofValue v).value 0 = .ok v) :
    Value.ofText text = .ok v.mergeKeys := by
  rw [Value.ofText, spells.ofText, Document.decode]
  simp only [taken]
  rfl

namespace Readable

/-- A value that can be read has no keys to merge. -/
theorem mergeKeys_eq (readable : v.Readable opened) : v.mergeKeys = v := by
  -- Only an object could have something to merge, and its keys are its own.
  induction readable with
  | array shallow inner ih =>
    rw [mergeKeys, mergeItems_eq_map, List.map_congr_left ih, List.map_id']
  | @object _ members shallow distinct inner ih =>
    have merged : mergeKeys.mergeMembers [] members = [] ++ members :=
      mergeMembers_eq_append distinct ih
    rw [mergeKeys, merged, List.nil_append]
  | _ => rfl

/-- A value that can be read is taken as it is written. -/
theorem value_ofValue (readable : v.Readable opened) : (Node.ofValue v).value opened = .ok v := by
  induction readable with
  | array shallow inner ih => exact Node.value_ofValue_array shallow ih
  | object shallow distinct inner ih => exact Node.value_ofValue_object shallow ih
  | _ => rfl

/-- A value that can be read is read from every text that spells it. -/
theorem ofText (readable : v.Readable 0) (spells : Spells v text) : Value.ofText text = .ok v := by
  rw [ofText_of_spells spells readable.value_ofValue, readable.mergeKeys_eq]

end Readable

end Value

end TokenGuard.Json
