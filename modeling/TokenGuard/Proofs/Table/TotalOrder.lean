import TokenGuard.Proofs.Decimal.Finite
import TokenGuard.Proofs.Decimal.Spelling
import TokenGuard.Proofs.Table.KeyOrder

/-! The printing order of keys is a total order in which only a key itself is equal to it, and the
keys that spell finite numbers come before all others. -/

namespace TokenGuard

open Std

variable {key left right : Text}

/-- A key that spells a decimal numeral whose value is not rounded to infinity. -/
def SpellsFinite (key : Text) : Prop :=
  ∃ numeral, Numeral.Spells key numeral ∧ numeral.size < Binary64.overflow

/-- A key is read as a finite number exactly if it spells one. -/
theorem isSome_numericKey?_iff : (numericKey? key).isSome = true ↔ SpellsFinite key := by
  rw [numericKey?, Option.isSome_iff_exists, SpellsFinite]
  -- Reading fails where the key spells no numeral, and where the numeral is rounded to infinity.
  constructor
  · rintro ⟨number, read⟩
    obtain ⟨numeral, spelled, finite⟩ := Option.bind_eq_some_iff.mp read
    exact ⟨numeral, Numeral.ofText?_eq_some_iff.mp spelled,
      Numeral.isSome_toBinary64?_iff.mp (Option.isSome_of_mem finite)⟩
  · rintro ⟨numeral, spelled, finite⟩
    obtain ⟨number, finite⟩ :=
      Option.isSome_iff_exists.mp (Numeral.isSome_toBinary64?_iff.mpr finite)
    exact ⟨number, Option.bind_eq_some_iff.mpr
      ⟨numeral, Numeral.ofText?_eq_some_iff.mpr spelled, finite⟩⟩

instance : DecidablePred SpellsFinite := fun _ => decidable_of_iff _ isSome_numericKey?_iff

/-- Spellings of infinity and of no number are not finite, nor is a numeral that is too large. -/
example : ¬ SpellsFinite "inf" ∧ ¬ SpellsFinite "NaN" ∧ ¬ SpellsFinite "1e999" ∧
    SpellsFinite "+.5e3" ∧ ¬ SpellsFinite "." := by decide +kernel

/-- A key that spells a finite number comes before one that does not. -/
theorem compareKeys_of_spellsFinite (finite : SpellsFinite left) (other : ¬ SpellsFinite right) :
    compareKeys left right = .lt := by
  obtain ⟨number, read⟩ := Option.isSome_iff_exists.mp (isSome_numericKey?_iff.mpr finite)
  have unread : numericKey? right = none := by
    rw [← Option.not_isSome_iff_eq_none, isSome_numericKey?_iff]
    exact other
  rw [compareKeys, read, unread]

/-- Two comparisons with one result chain to a third with this result. -/
theorem compareKeys_trans {a b c : Text} {order : Ordering} (first : compareKeys a b = order)
    (second : compareKeys b c = order) : compareKeys a c = order := by
  cases order with
  | lt => exact TransCmp.lt_trans first second
  | eq => exact TransCmp.eq_trans first second
  | gt => exact TransCmp.gt_trans first second

/-- Keys are totally ordered: only equal keys compare as equal, turning two keys around reverses the
result, each of the three results is transitive, and every key that spells a finite number comes
before every key that does not. -/
theorem compareKeys_totalOrder :
    (∀ a b, compareKeys a b = .eq ↔ a = b) ∧
    (∀ a b, compareKeys b a = (compareKeys a b).swap) ∧
    (∀ a b c order, compareKeys a b = order → compareKeys b c = order → compareKeys a c = order) ∧
    ∀ a b, SpellsFinite a → ¬ SpellsFinite b → compareKeys a b = .lt := by
  refine ⟨fun a b => LawfulEqCmp.compare_eq_iff_eq, fun a b => OrientedCmp.eq_swap, ?_, ?_⟩
  · exact fun a b c order first second => compareKeys_trans first second
  · exact fun a b finite other => compareKeys_of_spellsFinite finite other

/-- Spellings of one value are told apart by their bytes, and a number that is too large comes behind
all of them, as a name does. -/
theorem compareKeys_totalOrder_spellings :
    (compareKeys "01" "1" = .lt ∧ compareKeys "1" "1e0" = .lt ∧ compareKeys "01" "1e0" = .lt) ∧
    SpellsFinite "1e308" ∧ ¬ SpellsFinite "1e999" ∧ compareKeys "1e308" "1e999" = .lt := by
  obtain ⟨-, -, chain, before⟩ := compareKeys_totalOrder
  have first : compareKeys "01" "1" = .lt := by decide +kernel
  have second : compareKeys "1" "1e0" = .lt := by decide +kernel
  have finite : SpellsFinite "1e308" := by decide +kernel
  have infinite : ¬ SpellsFinite "1e999" := by decide +kernel
  exact ⟨⟨first, second, chain _ _ _ _ first second⟩, finite, infinite,
    before _ _ finite infinite⟩

end TokenGuard
