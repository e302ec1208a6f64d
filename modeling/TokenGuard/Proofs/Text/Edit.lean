import TokenGuard.Proofs.Text.Patch

/-! An edit replaces a part between acceptable neighbours: it leaves a patched text, and it counts
nothing exactly where the part does not stand. -/

namespace TokenGuard

variable {before after : Neighbour} {part new text rest : Text} {previous : Option Char}
  {replaced : Replaced}

namespace Text

/-- There is one walk over a text only. -/
theorem Rewritten.unique {other : Replaced} (filled : part ≠ [])
    (walk : Rewritten part new before after previous text replaced)
    (walk' : Rewritten part new before after previous text other) : replaced = other := by
  -- Both walks swap where the part starts between acceptable neighbours, and only there.
  induction walk generalizing other with
  | done =>
    generalize same : ([] : Text) = text at walk'
    cases walk' with
    | done => rfl
    | keep => cases same
    | swap => exact absurd (List.append_eq_nil_iff.mp same.symm).1 filled
  | @keep previous c rest replaced notHere tail ih =>
    generalize same : c :: rest = text at walk'
    cases walk' with
    | done => cases same
    | keep notHere' tail' =>
      obtain ⟨rfl, rfl⟩ := List.cons.inj same
      rw [ih tail']
    | @swap _ rest' _ opened closed => exact absurd ⟨opened, rest', same, closed⟩ notHere
  | @swap previous rest replaced opened closed tail ih =>
    generalize same : part ++ rest = text at walk'
    cases walk' with
    | done => exact absurd (List.append_eq_nil_iff.mp same).1 filled
    | keep notHere => exact absurd ⟨opened, rest, same.symm, closed⟩ notHere
    | swap opened' closed' tail' =>
      obtain rfl := List.append_cancel_left same
      rw [ih tail']

end Text

/-- What is replaced by a new text, and between which neighbours. -/
structure Edit where
  part : Text
  new : Text
  before : Neighbour
  after : Neighbour

namespace Edit

open Text (lastOr lastOr_cons Somewhere StartsBounded StandsIn Rewritten rewritten_replaceBounded)

variable {edit : Edit}

/-- Replace what the edit finds in a text. -/
def apply (edit : Edit) (text : Text) : Replaced :=
  text.replaceBounded edit.part edit.new edit.before edit.after

/-- An edit finds its part between acceptable neighbours, unless the part is empty. -/
def finds (edit : Edit) : Target := fun previous piece next =>
  piece = edit.part ∧ edit.part ≠ [] ∧ edit.before previous = true ∧ edit.after next = true

end Edit

end TokenGuard
