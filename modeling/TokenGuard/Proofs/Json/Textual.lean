import TokenGuard.Json.Printer
import TokenGuard.Proofs.Json.Quoted

/-! Values of strings and objects can be told from the line they are written on. -/

namespace TokenGuard.Json

variable {v w : Value} {members others : List (Text × Value)} {rest behind : Text}

/-- A value that is made up of strings and objects alone. -/
inductive Textual : Value → Prop
  | string (text : Text) : Textual (.string text)
  | object {members : List (Text × Value)} (inner : ∀ member ∈ members, Textual member.2) :
      Textual (.object members)

namespace Value

/-- What is written behind a member: a comma and the members that follow, if there are any. -/
def compactTail : List (Text × Value) → Text
  | [] => []
  | members => ',' :: compact.compactMembers members

/-- A member is written as its key and its value, with the other members behind it. -/
theorem compactMembers_cons (member : Text × Value) (members : List (Text × Value)) :
    compact.compactMembers (member :: members) =
      encodeString member.1 ++ ':' :: (member.2.compact ++ compactTail members) := by
  cases members <;> simp [compact.compactMembers, compactTail]

end Value

/-- Texts that agree behind a member agree behind the comma as well. -/
theorem compactMembers_of_compactTail
    (same : Value.compactTail members ++ '\x7d' :: rest =
      Value.compactTail others ++ '\x7d' :: behind) :
    Value.compact.compactMembers members ++ '\x7d' :: rest =
      Value.compact.compactMembers others ++ '\x7d' :: behind := by
  -- Either there is a comma in both or the brace is reached in both.
  cases members with
  | nil =>
    cases others with
    | nil => exact same
    | cons => simp [Value.compactTail] at same
  | cons =>
    cases others with
    | nil => simp [Value.compactTail] at same
    | cons => exact (List.cons.inj same).2

/-- Members in braces can be told from their text if the value of each of them can. -/
theorem compactMembers_append_inj
    (inner : ∀ member ∈ members, ∀ w rest behind, Textual w →
      member.2.compact ++ rest = w.compact ++ behind → member.2 = w ∧ rest = behind)
    (textual : ∀ member ∈ others, Textual member.2)
    (same : Value.compact.compactMembers members ++ '\x7d' :: rest =
      Value.compact.compactMembers others ++ '\x7d' :: behind) :
    members = others ∧ rest = behind := by
  -- Key by key and value by value the texts agree up to the next comma or the brace.
  induction members generalizing others with
  | nil =>
    cases others with
    | nil => exact ⟨rfl, (List.cons.inj same).2⟩
    | cons => simp [Value.compactMembers_cons, Value.compact.compactMembers, encodeString] at same
  | cons member members ih =>
    cases others with
    | nil => simp [Value.compactMembers_cons, Value.compact.compactMembers, encodeString] at same
    | cons other others =>
      obtain ⟨ofFirst, ofRest⟩ := List.forall_mem_cons.mp inner
      obtain ⟨first, remaining⟩ := List.forall_mem_cons.mp textual
      have divided : encodeString member.1 ++
            ':' :: (member.2.compact ++ (Value.compactTail members ++ '\x7d' :: rest)) =
          encodeString other.1 ++
            ':' :: (other.2.compact ++ (Value.compactTail others ++ '\x7d' :: behind)) := by
        simpa [Value.compactMembers_cons] using same
      -- First the keys are the same, then the values, and then what is behind them.
      obtain ⟨sameKey, afterKey⟩ := encodeString_append_inj divided
      obtain ⟨sameValue, afterValue⟩ := ofFirst _ _ _ first (List.cons.inj afterKey).2
      obtain ⟨rfl, ended⟩ := ih ofRest remaining (compactMembers_of_compactTail afterValue)
      exact ⟨by rw [Prod.ext sameKey sameValue], ended⟩

/-- A value of strings and objects can be told from its text, and so can the end of the text. -/
theorem Textual.compact_append_inj (left : Textual v) (right : Textual w)
    (same : v.compact ++ rest = w.compact ++ behind) : v = w ∧ rest = behind := by
  -- A quote opens a string and a brace an object, so both values are of one kind.
  induction left generalizing w rest behind with
  | string text =>
    cases right with
    | string other =>
      obtain ⟨rfl, ended⟩ := encodeString_append_inj same
      exact ⟨rfl, ended⟩
    | object inner => simp [Value.compact, encodeString] at same
  | @object members inner ih =>
    cases right with
    | string text => simp [Value.compact, encodeString] at same
    | @object others textual =>
      have inside : Value.compact.compactMembers members ++ '\x7d' :: rest =
          Value.compact.compactMembers others ++ '\x7d' :: behind := by
        simpa [Value.compact] using same
      obtain ⟨rfl, ended⟩ := compactMembers_append_inj
        (fun member inMembers w rest behind right => ih member inMembers right) textual inside
      exact ⟨rfl, ended⟩

end TokenGuard.Json
