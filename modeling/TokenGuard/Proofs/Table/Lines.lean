import Mathlib.Data.List.Forall2
import Mathlib.Data.List.Perm.Basic
import TokenGuard.Proofs.Table.KeyOrder
import TokenGuard.Table.Basic

/-! The lines of a table: one for each of its tokens, in an order that the tokens alone decide. -/

namespace TokenGuard

open Std

variable {α : Type} {entries : List (Text × Text)} {s t : TokenTable} {lead : Text}

/-- A value of a table with its key, and with its scale if the table has scales. -/
structure Token where
  scale : Option Text
  key : Text
  value : Text

namespace Token

/-- What a token is called behind what all tokens of its table start with. -/
def name (token : Token) : Text :=
  match token.scale with
  | none => token.key
  | some scale => scale ++ ['-'] ++ token.key

/-- Tokens are compared by the bytes of their scales, and within a scale by their keys. -/
def compare (left right : Token) : Ordering :=
  (Text.compareBytes (left.scale.getD []) (right.scale.getD [])).then
    (compareKeys left.key right.key)

/-- Of two tokens at most one comes before the other. -/
theorem compare_asymm {left right : Token} (before : left.compare right = .lt) :
    right.compare left ≠ .lt := by
  -- Turned around, the order of the scales and the order of the keys are reversed.
  have scales : Text.compareBytes (right.scale.getD []) (left.scale.getD []) =
      (Text.compareBytes (left.scale.getD []) (right.scale.getD [])).swap :=
    OrientedCmp.eq_swap
  have keys : compareKeys right.key left.key = (compareKeys left.key right.key).swap :=
    OrientedCmp.eq_swap
  have turned : right.compare left = (left.compare right).swap := by
    rw [compare, compare, scales, keys, Ordering.swap_then]
  simp [turned, before]

end Token

namespace TokenTable

/-- The tokens of entries that belong to one scale, or to none. -/
def tokensOf (scale : Option Text) (entries : List (Text × Text)) : List Token :=
  entries.map fun (key, value) => ⟨scale, key, value⟩

/-- The tokens of a table in the order in which they were declared, one for each entry of a flat
table and one for each step of each scale. -/
def tokens : TokenTable → List Token
  | flat table => tokensOf none table.entries
  | scaled table => table.entries.flatMap fun (scale, steps) => tokensOf (some scale) steps.entries

/-- The tokens of a table in the order in which they are printed. -/
def printedTokens : TokenTable → List Token
  | flat table => tokensOf none (sortByKey compareKeys table.entries)
  | scaled table =>
    (sortByKey Text.compareBytes table.entries).flatMap fun (scale, steps) =>
      tokensOf (some scale) (sortByKey compareKeys steps.entries)

/-- Every printed token has its line: what all names start with, its own name and its value. -/
theorem lines_eq_map (table : TokenTable) (lead : Text) : table.lines lead =
    table.printedTokens.map fun token => lead ++ token.name ++ ": " ++ token.value ++ ";" := by
  cases table with
  | flat table =>
    rw [lines, flatLines, printedTokens, tokensOf, List.map_map]
    rfl
  | scaled table =>
    -- The lines of each scale are those of its steps.
    rw [lines, scaledLines, printedTokens, List.map_flatMap]
    simp only [tokensOf, List.map_map]
    rfl

/-- Sorting the entries of a scale keeps its tokens. -/
theorem tokensOf_sortByKey_perm (scale : Option Text) (entries : List (Text × Text)) :
    (tokensOf scale (sortByKey compareKeys entries)).Perm (tokensOf scale entries) :=
  (sortByKey_perm_self compareKeys entries).map _

/-- No token is lost in printing, and none is printed twice. -/
theorem printedTokens_perm (table : TokenTable) : table.printedTokens.Perm table.tokens := by
  cases table with
  | flat table => exact tokensOf_sortByKey_perm none table.entries
  | scaled table =>
    -- Both the scales and the steps of each of them are only put into another order.
    refine ((sortByKey_perm_self _ table.entries).flatMap_right _).trans ?_
    refine List.Perm.flatMap_left _ fun scale _ => ?_
    exact tokensOf_sortByKey_perm (some scale.1) scale.2.entries

/-- The sorted tokens of one scale are strictly ascending. -/
theorem tokensOf_sortByKey_pairwise (scale : Option Text)
    (distinct : (entries.map Prod.fst).Nodup) :
    (tokensOf scale (sortByKey compareKeys entries)).Pairwise
      fun left right => left.compare right = .lt := by
  refine List.pairwise_map.mpr ((sortByKey_pairwise_lt distinct).imp fun before => ?_)
  -- Within one scale the keys decide.
  have same : Text.compareBytes (scale.getD []) (scale.getD []) = .eq := ReflCmp.compare_self
  rw [Token.compare, same]
  exact before

/-- Printed tokens are strictly ascending. -/
theorem printedTokens_pairwise (table : TokenTable) :
    table.printedTokens.Pairwise fun left right => left.compare right = .lt := by
  cases table with
  | flat table => exact tokensOf_sortByKey_pairwise none table.nodup
  | scaled table =>
    refine List.pairwise_flatMap.mpr ⟨fun scale _ => ?_, ?_⟩
    · exact tokensOf_sortByKey_pairwise (some scale.1) scale.2.nodup
    · -- Between two scales their names decide, whatever the steps are.
      refine (sortByKey_pairwise_lt table.nodup).imp fun {former latter} before => ?_
      intro left ofFormer right ofLatter
      obtain ⟨step, -, rfl⟩ := List.mem_map.mp ofFormer
      obtain ⟨step', -, rfl⟩ := List.mem_map.mp ofLatter
      have scales : Text.compareBytes former.1 latter.1 = .lt := before
      simp [Token.compare, scales]

/-- Tables with the same tokens print them in the same order. -/
theorem printedTokens_eq_of_perm (same : s.tokens.Perm t.tokens) :
    s.printedTokens = t.printedTokens := by
  -- There is only one way to put tokens into strictly ascending order.
  refine List.Perm.eq_of_pairwise ?_ s.printedTokens_pairwise t.printedTokens_pairwise
    (s.printedTokens_perm.trans (same.trans t.printedTokens_perm.symm))
  intro left right _ _ before behind
  exact absurd behind (Token.compare_asymm before)

end TokenTable

/-- Maps with the same keys in another order, and with values under each that are related. -/
def OrderedMap.Reordered (related : α → α → Prop) (left right : OrderedMap α) : Prop :=
  ∃ entries, left.entries.Perm entries ∧
    List.Forall₂ (fun entry other => entry.1 = other.1 ∧ related entry.2 other.2)
      entries right.entries

namespace TokenTable

/-- Tables of one layout with the same entries in another order, at either level if there are
scales. -/
def Reordered : TokenTable → TokenTable → Prop
  | flat left, flat right => left.Reordered Eq right
  | scaled left, scaled right => left.Reordered (OrderedMap.Reordered Eq) right
  | _, _ => False

/-- Flat tables with the same entries in another order have the same entries. -/
theorem entries_perm_of_reordered {left right : FlatTable} (reordered : left.Reordered Eq right) :
    left.entries.Perm right.entries := by
  obtain ⟨entries, perm, same⟩ := reordered
  -- Where values are related by equality, entries that are related are equal.
  have equal : entries = right.entries :=
    List.forall₂_eq_eq_eq ▸ same.imp fun _ _ both => Prod.ext both.1 both.2
  exact equal ▸ perm

/-- Scales whose steps are the same in another order have the same tokens. -/
theorem flatMap_tokensOf_perm {scales others : List (Text × FlatTable)}
    (reordered : List.Forall₂
      (fun scale other => scale.1 = other.1 ∧ scale.2.Reordered Eq other.2) scales others) :
    (scales.flatMap fun (scale, steps) => tokensOf (some scale) steps.entries).Perm
      (others.flatMap fun (scale, steps) => tokensOf (some scale) steps.entries) := by
  -- Scale by scale the names are equal, and the steps are permuted.
  induction reordered with
  | nil => exact List.Perm.refl _
  | @cons scale other _ _ first _ ih =>
    obtain ⟨name, steps⟩ := scale
    obtain ⟨other, others⟩ := other
    obtain ⟨rfl, reordered⟩ : name = other ∧ steps.Reordered Eq others := first
    exact ((entries_perm_of_reordered reordered).map _).append ih

/-- Reordering the entries of a table keeps its tokens. -/
theorem Reordered.tokens_perm (reordered : s.Reordered t) : s.tokens.Perm t.tokens := by
  match s, t, reordered with
  | flat left, flat right, reordered => exact (entries_perm_of_reordered reordered).map _
  | scaled left, scaled right, ⟨entries, perm, inner⟩ =>
    -- First the scales are put into the other order, and then the steps of each of them.
    exact (perm.flatMap_right _).trans (flatMap_tokensOf_perm inner)

/-- A table is printed as one line for each of its tokens, these being strictly ascending by the
bytes of their scales and by their keys, and reordering its entries leaves the lines as they are. -/
theorem lines_ordered (table : TokenTable) :
    (∃ tokens : List Token, tokens.Perm table.tokens ∧
      tokens.Pairwise (fun left right => left.compare right = .lt) ∧
      ∀ lead, table.lines lead =
        tokens.map fun token => lead ++ token.name ++ ": " ++ token.value ++ ";") ∧
    ∀ other, table.Reordered other → ∀ lead, other.lines lead = table.lines lead := by
  constructor
  · exact ⟨table.printedTokens, table.printedTokens_perm, table.printedTokens_pairwise,
      table.lines_eq_map⟩
  · intro other reordered lead
    -- The lines are those of the tokens in the only order that they have.
    rw [lines_eq_map, lines_eq_map, printedTokens_eq_of_perm reordered.tokens_perm]

/-- Two scales, the steps of one of them being numbers and a name. -/
def shadeTable : ScaledTable :=
  ⟨[("red", ⟨[("900", "#700"), ("50", "#fee")], by decide⟩),
    ("gray", ⟨[("ink", "#111"), ("1e2", "#eee"), ("50", "#fff")], by decide⟩)], by decide⟩

/-- The same scales the other way round, with the steps of each in another order too. -/
def turnedTable : ScaledTable :=
  ⟨[("gray", ⟨[("50", "#fff"), ("1e2", "#eee"), ("ink", "#111")], by decide⟩),
    ("red", ⟨[("50", "#fee"), ("900", "#700")], by decide⟩)], by decide⟩

/-- A table that is reordered at both levels is printed as the same five lines. -/
theorem lines_ordered_turned : (scaled shadeTable).Reordered (scaled turnedTable) ∧
    (∀ lead, (scaled turnedTable).lines lead = (scaled shadeTable).lines lead) ∧
    (scaled turnedTable).lines "--nx-" = (["--nx-gray-50: #fff;", "--nx-gray-1e2: #eee;",
      "--nx-gray-ink: #111;", "--nx-red-50: #fee;", "--nx-red-900: #700;"] : List Text) := by
  -- The scales change places, and the steps of each of them are permuted.
  have reordered : (scaled shadeTable).Reordered (scaled turnedTable) := by
    refine ⟨_, .swap _ _ _, .cons ⟨rfl, _, ?_, List.forall₂_same.mpr fun _ _ => ⟨rfl, rfl⟩⟩
      (.cons ⟨rfl, _, ?_, List.forall₂_same.mpr fun _ _ => ⟨rfl, rfl⟩⟩ .nil)⟩ <;> decide
  -- The second table is in printing order already.
  have scales : sortByKey Text.compareBytes turnedTable.entries = turnedTable.entries :=
    List.mergeSort_of_pairwise (by decide +kernel)
  have ordered : ∀ scale ∈ turnedTable.entries, scale.2.entries.Pairwise fun left right =>
      (compareKeys left.1 right.1).isLE = true := by decide +kernel
  have steps : ∀ scale ∈ turnedTable.entries,
      sortByKey compareKeys scale.2.entries = scale.2.entries :=
    fun scale member => List.mergeSort_of_pairwise (ordered scale member)
  refine ⟨reordered, (lines_ordered _).2 _ reordered, ?_⟩
  rw [lines, scaledLines, scales]
  simp only [turnedTable, List.forall_mem_cons] at steps ⊢
  simp only [List.flatMap_cons, steps, List.flatMap_nil]
  decide +kernel

end TokenTable

end TokenGuard
