import TokenGuard.Json.Printer
import TokenGuard.Proofs.Json.Integer
import TokenGuard.Proofs.Text.Join

/-! The texts that spell a value without floats, with gaps of blanks in front of its parts; a value
is spelled both on one line and over several lines. -/

namespace TokenGuard.Json

variable {kind other : Number → Prop} {v : Value} {text : Text}

/-- A value all of whose numbers are of one kind. -/
inductive Value.Every (kind : Number → Prop) : Value → Prop
  | null : Every kind .null
  | boolean (value : Bool) : Every kind (.boolean value)
  | number {value : Number} (ofKind : kind value) : Every kind (.number value)
  | string (text : Text) : Every kind (.string text)
  | array {items : List Value} (inner : ∀ item ∈ items, Every kind item) :
      Every kind (.array items)
  | object {members : List (Text × Value)} (inner : ∀ member ∈ members, Every kind member.2) :
      Every kind (.object members)

/-- A value that has no number in it. -/
abbrev Numberless : Value → Prop := Value.Every fun _ => False

/-- A text of blanks alone. -/
def IsGap (text : Text) : Prop := ∀ c ∈ text, isSpace c = true

/-- A member of an object with the texts that spell its parts. -/
structure Spelled where
  /-- The gap in front of the key. -/
  front : Text
  key : Text
  value : Value
  /-- The text of the value. -/
  text : Text

namespace Spelled

/-- The key and the value of a member. -/
def member (spelled : Spelled) : Text × Value := (spelled.key, spelled.value)

/-- The text of a member. -/
def written (spelled : Spelled) : Text :=
  spelled.front ++ (encodeString spelled.key ++ ':' :: spelled.text)

end Spelled

/-- A text spells a value without floats. -/
inductive Spells : Value → Text → Prop
  | null : Spells .null "null"
  | boolean (value : Bool) : Spells (.boolean value) (if value then "true" else "false")
  | number {value : Number} (exact : value.Exact) : Spells (.number value) value.text
  | string (text : Text) : Spells (.string text) (encodeString text)
  | array (items : List (Value × Text)) {back : Text}
      (inner : ∀ item ∈ items, Spells item.1 item.2) (gap : IsGap back) :
      Spells (.array (items.map Prod.fst))
        ('[' :: (Text.join [','] (items.map Prod.snd) ++ (back ++ [']'])))
  | object (members : List Spelled) {back : Text}
      (inner : ∀ member ∈ members, Spells member.value member.text)
      (gaps : ∀ member ∈ members, IsGap member.front) (gap : IsGap back) :
      Spells (.object (members.map Spelled.member))
        ('\x7b' :: (Text.join [','] (members.map Spelled.written) ++ (back ++ ['\x7d'])))
  /-- A gap may stand in front of a value. -/
  | behind {value : Value} {front text : Text} (gap : IsGap front) (inner : Spells value text) :
      Spells value (front ++ text)

/-- Nothing is a gap. -/
theorem isGap_nil : IsGap [] := by
  intro c member
  cases member

/-- A single space is a gap. -/
theorem isGap_space : IsGap [' '] := by
  intro c member
  rw [List.mem_singleton.mp member]
  rfl

/-- The start of a line is a gap. -/
theorem isGap_newLine (level : Nat) : IsGap (Value.newLine level) := by
  intro c member
  rcases List.mem_cons.mp member with isBreak | indent
  · rw [isBreak]
    rfl
  · rw [List.eq_of_mem_replicate indent]
    rfl

namespace Value.Every

/-- An object without members has no numbers of any kind. -/
theorem nil : Every kind (.object []) := .object (by simp)

/-- The numbers of an object are those of its first value and those of the other members. -/
theorem cons {key : Text} {value : Value} {members : List (Text × Value)}
    (first : Every kind value) (others : Every kind (.object members)) :
    Every kind (.object ((key, value) :: members)) := by
  -- An object tells its members.
  cases others with
  | object inner => exact .object (List.forall_mem_cons.mpr ⟨first, inner⟩)

/-- Numbers of a kind are of every wider one. -/
theorem mono (every : v.Every kind) (wider : ∀ number, kind number → other number) :
    v.Every other := by
  induction every with
  | null => exact .null
  | boolean value => exact .boolean value
  | number ofKind => exact .number (wider _ ofKind)
  | string text => exact .string text
  | array _ ih => exact .array ih
  | object _ ih => exact .object ih

/-- Numbers of two kinds are of both. -/
theorem and (every : v.Every kind) (also : v.Every other) :
    v.Every fun number => kind number ∧ other number := by
  -- Both properties go down the same value, side by side.
  induction every with
  | null => exact .null
  | boolean value => exact .boolean value
  | number ofKind =>
    cases also with
    | number ofOther => exact .number ⟨ofKind, ofOther⟩
  | string text => exact .string text
  | array _ ih =>
    cases also with
    | array ofOther => exact .array fun item member => ih item member (ofOther item member)
  | object _ ih =>
    cases also with
    | object ofOther => exact .object fun member inner => ih member inner (ofOther member inner)

/-- The line of a value without floats spells it. -/
theorem spells_compact (exact : v.Every Number.Exact) : Spells v v.compact := by
  induction exact with
  | null => exact .null
  | boolean value => cases value <;> exact .boolean _
  | number exact => exact .number exact
  | string text => exact .string text
  | @array items inner ih =>
    -- Without gaps the items stand next to the commas between them.
    have joined := Text.eq_join Value.compact.compactItems Value.compact
      rfl (fun _ => rfl) (fun _ _ _ => rfl) items
    have spelled := Spells.array (items.map fun item => (item, item.compact))
      (List.forall_mem_map.mpr ih) isGap_nil
    simpa [Value.compact, joined, Function.comp_def] using spelled
  | @object members inner ih =>
    -- Members have gaps neither in front of their keys nor behind the colons.
    have joined := Text.eq_join Value.compact.compactMembers
      (fun member => encodeString member.1 ++ [':'] ++ member.2.compact)
      rfl (fun _ => rfl) (fun _ _ _ => rfl) members
    have spelled := Spells.object
      (members.map fun member => ⟨[], member.1, member.2, member.2.compact⟩)
      (List.forall_mem_map.mpr ih) (List.forall_mem_map.mpr fun _ _ => isGap_nil) isGap_nil
    simpa [Value.compact, joined, Function.comp_def, Spelled.member, Spelled.written] using spelled

/-- The lines of a value without floats spell it. -/
theorem spells_pretty (exact : v.Every Number.Exact) (level : Nat) : Spells v (v.pretty level) := by
  induction exact generalizing level with
  | null => exact .null
  | boolean value => cases value <;> exact .boolean _
  | number exact => exact .number exact
  | string text => exact .string text
  | @array items inner ih =>
    -- Items and the closing bracket stand on lines of their own, unless there are no items.
    have joined := Text.eq_join (Value.pretty.prettyItems (level + 1))
      (fun item => Value.newLine (level + 1) ++ item.pretty (level + 1))
      rfl (fun _ => rfl) (fun _ _ _ => rfl) items
    have spelled := Spells.array
      (items.map fun item => (item, Value.newLine (level + 1) ++ item.pretty (level + 1)))
      (List.forall_mem_map.mpr fun item member =>
        (ih item member (level + 1)).behind (isGap_newLine (level + 1)))
      (isGap_newLine level)
    cases items with
    | nil => exact Spells.array [] (by simp) isGap_nil
    | cons item items =>
      rw [Value.pretty, joined]
      · simpa [Function.comp_def] using spelled
      · simp
  | @object members inner ih =>
    -- Members stand on lines of their own, with a space behind the colon.
    have joined := Text.eq_join (Value.pretty.prettyMembers (level + 1))
      (fun member => Value.newLine (level + 1) ++ encodeString member.1 ++ ": ".toList ++
        member.2.pretty (level + 1))
      rfl (fun _ => rfl) (fun _ _ _ => rfl) members
    have spelled := Spells.object
      (members.map fun member =>
        ⟨Value.newLine (level + 1), member.1, member.2, [' '] ++ member.2.pretty (level + 1)⟩)
      (List.forall_mem_map.mpr fun member inMembers =>
        (ih member inMembers (level + 1)).behind isGap_space)
      (List.forall_mem_map.mpr fun _ _ => isGap_newLine (level + 1)) (isGap_newLine level)
    cases members with
    | nil => exact Spells.object [] (by simp) (by simp) isGap_nil
    | cons member members =>
      rw [Value.pretty, joined]
      · simpa [Function.comp_def, Spelled.member, Spelled.written] using spelled
      · simp

end Value.Every

end TokenGuard.Json
