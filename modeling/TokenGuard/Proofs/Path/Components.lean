import TokenGuard.Path
import TokenGuard.Proofs.Table.KeyOrder
import TokenGuard.Proofs.Text.Lines

/-! What paths name: an entry of a directory is one component more than the directory, and components
are totally ordered. -/

namespace TokenGuard

open Std

namespace Component

/-- The name that a component gives; only an entry of a directory has one. -/
def name? : Component → Option Text
  | .name text => some text
  | _ => none

/-- Components are compared by their kinds, and names by their bytes. -/
theorem compare_eq : compare =
    compareLex (compareOn rank) (@compareOn _ _ ⟨Text.compareBytes⟩ (·.name?.getD [])) := by
  -- Pairs of kinds are told apart by their ranks, and only two names go on to their bytes.
  funext left right
  cases left <;> cases right <;> rfl

/-- The order of components is transitive. -/
instance : TransCmp compare := by
  let _ : Ord Text := ⟨Text.compareBytes⟩
  have _ : TransOrd Text := inferInstanceAs (TransCmp Text.compareBytes)
  rw [compare_eq]
  infer_instance

/-- Only equal components have the same place in their order. -/
instance : LawfulEqCmp compare where
  eq_of_compare {left right} same := by
    cases left <;> cases right <;> try first | rfl | cases same
    next left right =>
      have same : Text.compareBytes left right = .eq := same
      rw [LawfulEqCmp.eq_of_compare same]

end Component

namespace Path

variable {name : Text} {path longer left right : Path}

/-- The order of lists of components is the lexicographic one. -/
theorem compareComponents_eq : compareComponents = List.compareLex Component.compare := by
  funext left right
  fun_induction compareComponents left right with
  | case1 => rfl
  | case2 => rfl
  | case3 => rfl
  | case4 left lefts right rights ih => rw [List.compareLex_cons_cons, ih]

/-- The order of lists of components is transitive. -/
instance : TransCmp compareComponents := by
  rw [compareComponents_eq]
  infer_instance

/-- Only equal lists of components have the same place in their order. -/
instance : LawfulEqCmp compareComponents := by
  rw [compareComponents_eq]
  infer_instance

/-- The order of paths is transitive. -/
instance : TransCmp compare := by
  let _ : Ord (List Component) := ⟨compareComponents⟩
  have _ : TransOrd (List Component) := inferInstanceAs (TransCmp compareComponents)
  exact inferInstanceAs (TransCmp (compareOn components))

/-- Paths have the same place in their order if they name the same components. -/
theorem compare_eq_eq_iff : left.compare right = .eq ↔ left.components = right.components :=
  @LawfulEqCmp.compare_eq_iff_eq _ compareComponents _ _ _

/-- A text that an entry of a directory can have as its name. -/
def IsEntryName (name : Text) : Prop :=
  isIdle name = false ∧ '/' ∉ name ∧ name ≠ "..".toList

/-- Whether a text can be a name can be checked. -/
instance (name : Text) : Decidable (IsEntryName name) :=
  inferInstanceAs (Decidable (_ ∧ _ ∧ _))

/-- The names of the entries on the way that a path goes. -/
def names (path : Path) : List Text := path.components.filterMap Component.name?

/-- The part with which a path starts is no step. -/
theorem steps_origin (path : Path) : steps path.origin.2 = steps path.segments := by
  unfold origin
  split
  next split => rw [split]; rfl
  next split => rw [split]; rfl
  next => rfl

/-- The steps of parts are those of the parts before and behind a place. -/
theorem steps_append (before behind : List Text) :
    steps (before ++ behind) = steps before ++ steps behind := by
  simp [steps]

/-- A name is a step to the entry of the name. -/
theorem steps_singleton (named : IsEntryName name) : steps [name] = [.name name] := by
  obtain ⟨filled, -, noParent⟩ := named
  simp only [steps, List.filter_cons, filled, Bool.not_false, if_true, List.filter_nil,
    List.map_cons, List.map_nil, Component.ofSegment, if_neg noParent]

/-- A text without a slash is the only part of its path. -/
theorem segments_of_notMem (single : '/' ∉ name) : segments name = [name] :=
  Text.splitAt_of_notMem single

/-- A path has at least one part. -/
theorem segments_ne_nil (path : Path) : path.segments ≠ [] := by
  rw [segments, Text.splitAt_eq_splitOn]
  exact List.splitOn_ne_nil _ path

/-- A path starts at the root with a slash, and expressly at the current directory with a dot. -/
theorem origin_fst (path : Path) : path.origin.1 =
    if path.head? = some '/' then some .root
    else if path.segments.head? = some ['.'] then some .here else none := by
  cases path with
  | nil => rfl
  | cons c rest =>
    -- Whatever follows the first character has a first part, which that character extends unless it
    -- is a slash.
    obtain ⟨piece, pieces, split⟩ := List.exists_cons_of_ne_nil (segments_ne_nil rest)
    rw [segments] at split
    by_cases rooted : c = '/'
    · simp [origin, segments, Text.splitAt, rooted, split]
    · by_cases dotted : c :: piece = ['.']
      · simp [origin, segments, Text.splitAt, rooted, split, dotted]
      · simp [origin, segments, Text.splitAt, rooted, split, dotted]

/-- A path that goes on with a name where another one ends with parts that lead nowhere names one
component more. -/
theorem components_of_segments {common idle : List Text} (named : IsEntryName name)
    (alike : longer.head? = path.head?) (parted : common ≠ []) (still : steps idle = [])
    (split : path.segments = common ++ idle) (extended : longer.segments = common ++ [name]) :
    longer.components = path.components ++ [.name name] := by
  -- The start of a path depends on its first character and its first part, and these are common.
  have start : longer.origin.1 = path.origin.1 := by
    obtain ⟨first, parts, rfl⟩ := List.exists_cons_of_ne_nil parted
    rw [origin_fst, origin_fst, alike, split, extended]
    rfl
  rw [components, components, start, steps_origin, steps_origin, split, extended, steps_append,
    steps_append, still, steps_singleton named, List.append_nil, List.append_assoc]

/-- An entry of a directory is one component more than the directory. -/
theorem components_join (named : IsEntryName name) (path : Path) :
    (path.join name).components = path.components ++ [.name name] := by
  obtain ⟨filled, single, -⟩ := id named
  have parts := segments_of_notMem single
  have relative : name.head? ≠ some '/' := fun rooted => single (List.mem_of_mem_head? rooted)
  -- A slash before the name parts it from what stands before the slash.
  have behind (before : Path) : segments (before ++ '/' :: name) = before.segments ++ [name] := by
    rw [← parts]
    exact Text.splitAt_append_cons '/' before name
  rw [join, if_neg relative]
  rcases List.eq_nil_or_concat path with rfl | ⟨before, last, rfl⟩
  · -- The entry of an empty path is its name alone, which is no dot and so gives no start.
    have start : (origin name).1 = none := by
      have notHere : name ≠ ['.'] := by
        rintro rfl
        cases filled
      rw [origin_fst, if_neg relative, parts, List.head?_cons, if_neg (by simpa using notHere)]
    simp [components, start, steps_origin, parts, steps_singleton named]
    rfl
  · rw [List.concat_eq_append]
    by_cases closed : last = '/'
    · -- The slash that ends the directory is followed by a part that leads nowhere.
      subst closed
      have ended : segments (before ++ ['/']) = segments before ++ [[]] :=
        Text.splitAt_append_cons '/' before []
      rw [if_pos (by simp), List.append_assoc, List.singleton_append]
      refine components_of_segments named ?_ (segments_ne_nil before) rfl ended (behind before)
      cases before <;> rfl
    · -- Otherwise the slash is put in, and the directory's own parts stay as they are.
      rw [if_neg (by simpa using closed), List.append_assoc (before ++ [last]),
        List.singleton_append]
      refine components_of_segments named ?_ (segments_ne_nil _) rfl (List.append_nil _).symm
        (behind _)
      cases before <;> rfl

/-- The entry at the end of names has them as further components. -/
theorem components_foldl_join {names : List Text} (named : ∀ name ∈ names, IsEntryName name)
    (path : Path) : (names.foldl join path).components = path.components ++ names.map .name := by
  -- Each name adds its component to the path that the names before it have led to.
  induction names generalizing path with
  | nil => simp
  | cons name names ih =>
    rw [List.foldl_cons, ih fun other member => named other (.tail name member),
      components_join (named name (.head names)), List.map_cons, List.append_assoc,
      List.singleton_append]

/-- The names on a way that goes on are followed by those that it goes on with. -/
theorem names_of_components {names : List Text}
    (below : longer.components = path.components ++ names.map .name) :
    longer.names = path.names ++ names := by
  -- Components that are names are told by their names.
  have own : (names.map Component.name).filterMap Component.name? = names := by
    rw [List.filterMap_map]
    exact List.filterMap_some
  rw [Path.names, below, List.filterMap_append, own, Path.names]

/-- Without a step upwards no part of a path leads upwards. -/
theorem notMem_segments_of_straight (straight : .up ∉ path.components) :
    "..".toList ∉ path.segments := by
  -- Two dots are not idle, so they would be kept and become the step upwards.
  intro upwards
  refine straight ?_
  rw [components, steps_origin]
  have kept : "..".toList ∈ path.segments.filter (!isIdle ·) :=
    List.mem_filter.mpr ⟨upwards, by decide⟩
  exact List.mem_append_right _ (List.mem_map.mpr ⟨_, kept, if_pos rfl⟩)

/-- Without a step upwards the steps of a path are the names between its slashes. -/
theorem steps_eq_map (straight : .up ∉ path.components) :
    steps path.segments = (path.segments.filter (!isIdle ·)).map .name := by
  refine List.map_congr_left fun segment kept => if_neg fun upwards => ?_
  exact notMem_segments_of_straight straight (upwards ▸ (List.mem_filter.mp kept).1)

/-- The start of a path has no name. -/
theorem names_of_origin (path : Path) : path.origin.1.toList.filterMap Component.name? = [] := by
  rw [origin_fst]
  split
  · rfl
  · split <;> rfl

/-- Without a step upwards a path goes by the names between its slashes. -/
theorem names_eq_filter (straight : .up ∉ path.components) :
    path.names = path.segments.filter (!isIdle ·) := by
  rw [names, components, List.filterMap_append, names_of_origin, steps_origin,
    steps_eq_map straight, List.filterMap_map, List.nil_append]
  exact List.filterMap_some

/-- A path without a step upwards is told by its start and its names. -/
theorem components_eq_of_straight (straight : .up ∉ path.components) :
    path.components = path.origin.1.toList ++ path.names.map .name := by
  rw [names_eq_filter straight, components, steps_origin, steps_eq_map straight]

/-- Paths without a step upwards that start alike and go by the same names are the same. -/
theorem components_eq_of_names (straight : .up ∉ left.components)
    (straight' : .up ∉ right.components) (same : left.names = right.names)
    (rooted : .root ∈ left.components ↔ .root ∈ right.components)
    (dotted : .here ∈ left.components ↔ .here ∈ right.components) :
    left.components = right.components := by
  rw [components_eq_of_straight straight, components_eq_of_straight straight', same]
    at rooted dotted ⊢
  congr 1
  -- No name is a start, so the two conditions speak of the starts alone.
  rw [origin_fst, origin_fst] at rooted dotted ⊢
  split at rooted <;> split at rooted <;> simp_all

end Path

end TokenGuard
