import Mathlib.Data.List.TakeWhile
import TokenGuard.Proofs.Path.Components
import TokenGuard.SourceTree

/-! Paths that are put in order stand in strictly ascending order, and name what they named before:
what is found does not show in which order, or how often, it was met. -/

namespace TokenGuard

open Std

variable {paths left right : List Path} {path other : Path}

/-- Paths of which each one comes before all that follow it. -/
def Ascending (paths : List Path) : Prop := paths.Pairwise fun left right => left.compare right = .lt

/-- Paths are the same exactly if they have the same components. -/
theorem Path.same_iff : path.same other = true ↔ path.components = other.components := by
  rw [Path.same, beq_iff_eq]

/-- A path that is not behind another one and differs from it comes before it. -/
theorem Path.compare_eq_lt (ordered : (path.compare other).isLE = true)
    (different : path.same other = false) : path.compare other = .lt := by
  -- Paths that compare as equal would have the same components.
  have unequal : path.compare other ≠ .eq := by
    intro equal
    rw [Path.same_iff.mpr (Path.compare_eq_eq_iff.mp equal)] at different
    cases different
  cases compared : path.compare other with
  | lt => rfl
  | eq => exact absurd compared unequal
  | gt => simp [compared] at ordered

namespace Ascending

/-- The components of ascending paths are ascending. -/
theorem pairwise_components (ordered : Ascending paths) :
    (paths.map Path.components).Pairwise fun a b => Path.compareComponents a b = .lt :=
  List.pairwise_map.mpr ordered

/-- No two of ascending paths name the same. -/
theorem nodup_components (ordered : Ascending paths) : (paths.map Path.components).Nodup := by
  -- Nothing comes before itself.
  refine ordered.pairwise_components.imp fun {a b} before equal => ?_
  have equal : Path.compareComponents a b = .eq := LawfulEqCmp.compare_eq_iff_eq.mpr equal
  rw [equal] at before
  cases before

/-- Ascending paths that name the same are the same, as there is only one order for them. -/
theorem map_components_eq (ordered : Ascending left) (ordered' : Ascending right)
    (same : ∀ path : Path, path.components ∈ left.map Path.components ↔
      path.components ∈ right.map Path.components) :
    left.map Path.components = right.map Path.components := by
  -- Neither side repeats anything, so having the same members makes them permutations.
  have perm : (left.map Path.components).Perm (right.map Path.components) := by
    refine (List.perm_ext_iff_of_nodup ordered.nodup_components ordered'.nodup_components).mpr
      fun components => ⟨fun member => ?_, fun member => ?_⟩
    · obtain ⟨path, -, rfl⟩ := List.mem_map.mp member
      exact (same path).mp member
    · obtain ⟨path, -, rfl⟩ := List.mem_map.mp member
      exact (same path).mpr member
  refine perm.eq_of_pairwise (fun a b _ _ before behind => ?_) ordered.pairwise_components
    ordered'.pairwise_components
  -- Of two components in strict order at most one comes before the other.
  have swapped : Path.compareComponents a b = (Path.compareComponents b a).swap :=
    OrientedCmp.eq_swap
  rw [swapped, behind] at before
  cases before

end Ascending

namespace SourceTree

/-- Dropping repetitions neither adds a path nor changes the order. -/
theorem dropRepeats_sublist (paths : List Path) : (dropRepeats paths).Sublist paths := by
  fun_induction dropRepeats paths with
  | case1 => exact .slnil
  | case2 path paths ih => exact (ih.trans (List.dropWhile_sublist _)).cons_cons path

/-- A path that is dropped names what the one kept in its place names. -/
theorem mem_map_dropRepeats {components : List Component} :
    components ∈ (dropRepeats paths).map Path.components ↔
      components ∈ paths.map Path.components := by
  refine ⟨fun kept => ((dropRepeats_sublist paths).map _).subset kept, fun member => ?_⟩
  fun_induction dropRepeats paths with
  | case1 => exact member
  | case2 path paths ih =>
    rcases List.mem_cons.mp member with rfl | behind
    · exact .head _
    · -- Behind the first path stand those like it, which are dropped, and the ones that are kept.
      rw [← List.takeWhile_append_dropWhile (p := path.same) (l := paths), List.map_append,
        List.mem_append] at behind
      rcases behind with dropped | kept
      · obtain ⟨other, alike, rfl⟩ := List.mem_map.mp dropped
        rw [← Path.same_iff.mp (List.mem_takeWhile_imp alike)]
        exact .head _
      · exact .tail _ (ih kept)

/-- Without repetitions paths in order are ascending. -/
theorem ascending_dropRepeats
    (ordered : paths.Pairwise fun left right => (left.compare right).isLE = true) :
    Ascending (dropRepeats paths) := by
  -- The first path is kept, and the next one that is kept is the first one unlike it.
  fun_induction dropRepeats paths with
  | case1 => exact .nil
  | case2 path paths ih =>
    obtain ⟨first, rest⟩ := List.pairwise_cons.mp ordered
    have rest := rest.sublist (List.dropWhile_sublist path.same)
    refine .cons (fun kept member => ?_) (ih rest)
    have member := (dropRepeats_sublist _).subset member
    -- The first path that is not dropped differs from this one, and all others come behind it.
    have stop := List.head?_dropWhile_not path.same paths
    have later := (List.dropWhile_sublist path.same (l := paths)).subset
    cases dropped : paths.dropWhile path.same with
    | nil => simp [dropped] at member
    | cons next others =>
      rw [dropped] at member rest stop later
      have before := Path.compare_eq_lt (first next (later (.head others))) stop
      rcases List.mem_cons.mp member with rfl | member
      · exact before
      · exact TransCmp.lt_of_lt_of_isLE before ((List.pairwise_cons.mp rest).1 kept member)

/-- Ordered paths are ascending. -/
theorem ascending_orderPaths (paths : List Path) : Ascending (orderPaths paths) :=
  ascending_dropRepeats (List.pairwise_mergeSort (fun _ _ _ => TransCmp.isLE_trans)
    (fun _ _ => isLE_or_isLE _ _) paths)

/-- Ordering paths changes nothing about what they name. -/
theorem mem_map_orderPaths {components : List Component} :
    components ∈ (orderPaths paths).map Path.components ↔
      components ∈ paths.map Path.components := by
  rw [orderPaths, mem_map_dropRepeats]
  exact ((List.mergeSort_perm paths _).map _).mem_iff

end SourceTree

end TokenGuard
