import TokenGuard.Disk
import TokenGuard.Proofs.SourceTree.Walk

/-! On a disk without links a path leads where its names lead, and the tree that is met there is the
one that the disk holds. -/

namespace TokenGuard

variable {inode below : Inode} {disk : Disk} {names above : List Text} {path root : Path}
  {source : SourceTree}

namespace Inode

/-- What an inode holds as a tree. -/
def asTree : Inode → Tree
  | file _ => .file
  | link _ => .other
  | directory entries => .directory (asTrees entries)
where
  asTrees : List (Text × Inode) → List (Text × Tree)
    | [] => []
    | (name, inode) :: entries => (name, inode.asTree) :: asTrees entries

/-- Whether an inode is a link. -/
def isLink : Inode → Bool
  | link _ => true
  | _ => false

/-- The entries of a directory are held as trees under their names. -/
theorem asTrees_eq_map (entries : List (Text × Inode)) :
    asTree.asTrees entries = entries.map fun entry => (entry.1, entry.2.asTree) := by
  induction entries with
  | nil => rfl
  | cons entry entries ih => rw [asTree.asTrees, ih, List.map_cons]

/-- The entries of a directory are met as trees under their names. -/
theorem toTrees_eq_map (path : Path) (entries : List (Text × Inode)) :
    toTree.toTrees path entries =
      entries.map fun entry => (entry.1, entry.2.toTree (path.join entry.1)) := by
  induction entries with
  | nil => rfl
  | cons entry entries ih => rw [toTree.toTrees, ih, List.map_cons]

/-- The way down by some names and then by others is the way by all of them. -/
theorem descend_append (front back : List Text) (inode : Inode) :
    descend (front ++ back) inode = (descend front inode).bind (descend back) := by
  -- Only a directory lets a way go on; elsewhere both ways end.
  induction front generalizing inode with
  | nil => rfl
  | cons name front ih =>
    cases inode with
    | directory entries =>
      show (entries.lookup name).bind (descend (front ++ back)) =
        ((entries.lookup name).bind (descend front)).bind (descend back)
      cases entries.lookup name with
      | none => rfl
      | some next => exact ih next
    | file => rfl
    | link => rfl

/-- What a directory has under a name is among its entries. -/
theorem mem_of_lookup {entries : List (Text × Inode)} {name : Text}
    (found : entries.lookup name = some inode) : (name, inode) ∈ entries := by
  obtain ⟨before, after, rfl, -⟩ := List.lookup_eq_some_iff.mp found
  exact List.mem_append_right _ (.head after)

/-- Names lead to the tree of the inode at their end. -/
theorem leads_of_descend (found : descend names inode = some below) :
    inode.asTree.Leads names below.asTree := by
  -- Each name is looked up in a directory, whose entry of that name is one of the tree.
  induction names generalizing inode with
  | nil =>
    obtain rfl : inode = below := Option.some.inj found
    exact .stay
  | cons name names ih =>
    cases inode with
    | directory entries =>
      obtain ⟨next, named, found⟩ := Option.bind_eq_some_iff.mp found
      rw [asTree, asTrees_eq_map]
      exact Tree.leads_map_iff.mpr ⟨_, mem_of_lookup named, rfl, ih found⟩
    | file => cases found
    | link => cases found

/-- The leaves below a directory are those of its entries. -/
theorem mem_leavesBelow_iff {leaf : Path × Inode} {entries : List (Text × Inode)} :
    leaf ∈ leaves.leavesBelow path entries ↔
      ∃ entry ∈ entries, leaf ∈ entry.2.leaves (path.join entry.1) := by
  induction entries with
  | nil => simp [leaves.leavesBelow]
  | cons entry entries ih => simp [leaves.leavesBelow, ih]

/-- A link at the end of names is among the leaves. -/
theorem exists_leaf_of_descend (found : descend names inode = some below)
    (linked : below.isLink = true) (path : Path) :
    ∃ leaf ∈ inode.leaves path, leaf.2.isLink = true := by
  -- The leaves of a directory are those of its entries, down to the link itself.
  induction names generalizing inode path with
  | nil =>
    obtain rfl : inode = below := Option.some.inj found
    cases inode with
    | link target => exact ⟨(path, .link target), .head _, rfl⟩
    | file => cases linked
    | directory => cases linked
  | cons name names ih =>
    cases inode with
    | directory entries =>
      obtain ⟨next, named, found⟩ := Option.bind_eq_some_iff.mp found
      obtain ⟨leaf, member, link⟩ := ih found (path.join name)
      exact ⟨leaf, mem_leavesBelow_iff.mpr ⟨_, mem_of_lookup named, member⟩, link⟩
    | file => cases found
    | link => cases found

/-- If no directory on the way is unlisted, the tree that is met leads to the files that are held. -/
theorem leads_toTree_iff (listed : ∀ names reason, source.Admits names →
    ¬ (inode.toTree path).Leads names (.unlisted reason)) (admitted : source.Admits names) :
    (inode.toTree path).Leads names .file ↔ inode.asTree.Leads names .file := by
  induction names generalizing inode path with
  | nil =>
    -- Without names only the kind of the inode counts, and both trees tell files alike.
    rw [Tree.leads_nil_iff, Tree.leads_nil_iff]
    cases inode with
    | directory entries =>
      rw [toTree, asTree]
      split <;> simp
    | file => exact Iff.rfl
    | link => exact Iff.rfl
  | cons name names ih =>
    cases inode with
    | directory entries =>
      obtain ⟨first, rest⟩ := List.forall_mem_cons.mp admitted
      rw [toTree] at listed ⊢
      split at listed
      · -- A directory whose path is too long would be unlisted itself.
        exact absurd .stay (listed [] _ (by simp [SourceTree.Admits]))
      · next short =>
        rw [toTrees_eq_map] at listed ⊢
        rw [if_neg short, asTree, asTrees_eq_map, Tree.leads_map_iff, Tree.leads_map_iff]
        refine exists_congr fun entry => and_congr_right fun member => and_congr_right fun same => ?_
        -- A directory that is unlisted below the entry would be so below this directory.
        subst same
        refine ih (fun names reason admitted leads => ?_) rest
        exact listed (entry.1 :: names) reason (List.forall_mem_cons.mpr ⟨first, admitted⟩)
          (Tree.leads_map_iff.mpr ⟨entry, member, rfl, leads⟩)
    -- Neither tree goes on below a leaf.
    | file => exact iff_of_false (by rintro ⟨⟩) (by rintro ⟨⟩)
    | link => exact iff_of_false (by rintro ⟨⟩) (by rintro ⟨⟩)

end Inode

namespace Disk

/-- A disk without links. -/
def HasNoLinks (disk : Disk) : Prop := ∀ leaf ∈ disk.leaves, leaf.2.isLink = false

/-- Whether a disk has links can be checked. -/
instance (disk : Disk) : Decidable disk.HasNoLinks :=
  inferInstanceAs (Decidable (∀ leaf ∈ disk.leaves, _))

/-- On a disk without links nothing that names lead to is a link. -/
theorem HasNoLinks.isLink_eq_false (linkless : disk.HasNoLinks)
    (found : (Inode.directory disk.entries).descend names = some below) :
    below.isLink = false := by
  -- A link at the end of names would be a leaf of the disk.
  refine Bool.eq_false_iff.mpr fun linked => ?_
  obtain ⟨leaf, member, link⟩ := Inode.exists_leaf_of_descend found linked []
  rw [linkless leaf member] at link
  cases link

/-- A walk goes on among the entries of the directory where it stands. -/
theorem inode?_of_entriesAt? {follow : Bool} {place : Place} {entries : List (Text × Inode)}
    (listed : disk.entriesAt? ⟨follow, false⟩ place = some entries) :
    disk.inode? place = some (.directory entries) := by
  unfold entriesAt? at listed
  split at listed
  · -- Only a directory has entries.
    next found => rw [found, Option.some.inj listed]
  · cases listed
  · cases listed

/-- On a disk without links a walk goes down by the names in its way. -/
theorem walk_eq_of_hasNoLinks {follow : Bool} {links : Nat} {segments : List Text} {place : Place}
    (linkless : disk.HasNoLinks) (straight : "..".toList ∉ segments)
    (walked : disk.walk ⟨follow, false⟩ links (.inside above) segments = .ok place) :
    place = .inside ((segments.filter (!Path.isIdle ·)).reverse ++ above) := by
  -- The induction goes along the segments; the place grows by one name with each that is not idle.
  induction segments generalizing above with
  | nil =>
    rw [walk] at walked
    exact (Except.ok.inj walked).symm
  | cons segment segments ih =>
    rw [List.mem_cons, not_or] at straight
    obtain ⟨noParent, straight⟩ := straight
    rw [walk] at walked
    split at walked
    · cases walked
    · next entries listed =>
      have held : (Inode.directory disk.entries).descend above.reverse =
          some (.directory entries) := inode?_of_entriesAt? listed
      by_cases idle : Path.isIdle segment = true
      · -- An idle segment leaves the place as it is.
        rw [if_pos idle] at walked
        rw [ih straight walked]
        simp [idle]
      · rw [if_neg idle, if_neg (Ne.symm noParent)] at walked
        split at walked
        · cases walked
        · split at walked
          · cases walked
          · next target named =>
            -- A link would be one of the disk, which has none.
            have found : (Inode.directory disk.entries).descend (above.reverse ++ [segment]) =
                some (.link target) := by
              rw [Inode.descend_append, held]
              show (entries.lookup segment).bind (Inode.descend []) = _
              rw [named]
              rfl
            cases linkless.isLink_eq_false found
          · next next named =>
            -- Anything else becomes the next place of the walk.
            rw [child] at walked
            rw [ih straight walked]
            simp [idle]

/-- On a disk without links a path is resolved to the place of its names. -/
theorem resolve_eq_of_hasNoLinks {follow : Bool} {place : Place} (linkless : disk.HasNoLinks)
    (relative : path.head? ≠ some '/') (straight : .up ∉ path.components)
    (resolved : disk.resolve ⟨follow, false⟩ path = .ok place) :
    place = .inside path.names.reverse := by
  rw [resolve] at resolved
  -- Only a path that passes the three checks is walked along.
  split at resolved
  · cases resolved
  · split at resolved
    · cases resolved
    · split at resolved
      · cases resolved
      · have segments := Path.notMem_segments_of_straight straight
        rw [walk_eq_of_hasNoLinks linkless segments resolved, List.append_nil,
          Path.names_eq_filter straight]

/-- On a disk without links a path leads to what its names lead to. -/
theorem descend_of_lookUp {follow : Bool} (linkless : disk.HasNoLinks)
    (relative : path.head? ≠ some '/') (straight : .up ∉ path.components)
    (found : disk.lookUp follow path = .ok inode) :
    (Inode.directory disk.entries).descend path.names = some inode := by
  rw [lookUp] at found
  cases resolved : disk.resolve ⟨follow, false⟩ path with
  | error fault =>
    rw [resolved] at found
    cases found
  | ok place =>
    rw [resolved, resolve_eq_of_hasNoLinks linkless relative straight resolved] at found
    -- What is looked up is the inode at the place of the names.
    have below : disk.inode? (.inside path.names.reverse) =
        (Inode.directory disk.entries).descend path.names := by
      rw [inode?, List.reverse_reverse]
    simp only [Bind.bind, Except.bind, below] at found
    split at found
    · next held => rw [held, Except.ok.inj found]
    · cases found

/-- On a disk without links a walk goes down to whatever names lead to, if none of them is too
long. -/
theorem walk_of_descend (manner : Manner) (links : Nat) (above : List Text)
    (linkless : disk.HasNoLinks)
    (plain : ∀ name ∈ names, Path.IsEntryName name ∧ Inode.isLongName name = false)
    (found : (Inode.directory disk.entries).descend (above.reverse ++ names) = some inode) :
    disk.walk manner links (.inside above) names = .ok (.inside (names.reverse ++ above)) := by
  -- Names that lead down pass through directories, so the walk can go on behind each of them.
  induction names generalizing above with
  | nil => rw [walk, List.reverse_nil, List.nil_append]
  | cons name names ih =>
    obtain ⟨⟨⟨filled, -, noParent⟩, short⟩, plain⟩ := List.forall_mem_cons.mp plain
    rw [List.append_cons] at found
    have below := ih (name :: above) plain (by rwa [List.reverse_cons])
    rw [Inode.descend_append] at found
    obtain ⟨next, held, -⟩ := Option.bind_eq_some_iff.mp found
    have noLink := linkless.isLink_eq_false held
    rw [Inode.descend_append] at held
    obtain ⟨place, here, named⟩ := Option.bind_eq_some_iff.mp held
    cases place with
    | directory entries =>
      have named : entries.lookup name = some next := by
        obtain ⟨entry, named, same⟩ := Option.bind_eq_some_iff.mp named
        rwa [← Option.some.inj same]
      have listed : disk.entriesAt? manner (.inside above) = some entries := by
        rw [entriesAt?, inode?, here]
      rw [walk, listed]
      simp only [filled, Bool.false_eq_true, if_false, if_neg noParent, short, named]
      rw [List.reverse_cons, List.append_assoc, List.singleton_append, ← below]
      -- What stands under the name is no link, so the walk steps down to it.
      cases next with
      | link => cases noLink
      | file => rfl
      | directory => rfl
    | file => cases named
    | link => cases named

/-- On a disk without links there is something at a path whose parts are names that lead to it, if
neither the path nor a part of it is too long. -/
theorem contains_of_descend (linkless : disk.HasNoLinks) (relative : path.head? ≠ some '/')
    (whole : path.contains '\x00' = false) (short : Inode.isLongPath path = false)
    (plain : ∀ name ∈ path.segments, Path.IsEntryName name ∧ Inode.isLongName name = false)
    (found : (Inode.directory disk.entries).descend path.segments = some inode) :
    disk.contains path = true := by
  have filled : path.isEmpty = false := by
    cases path with
    | nil => cases (plain [] (.head _)).1.1
    | cons => rfl
  have resolved : disk.resolve ⟨true, false⟩ path = .ok (.inside path.segments.reverse) := by
    rw [resolve, whole, filled, short, if_neg relative]
    have walked := walk_of_descend ⟨true, false⟩ linkLimit [] linkless plain found
    simpa using walked
  rw [contains, lookUp, resolved]
  simp [Bind.bind, Except.bind, inode?, found, Except.isOk, Except.toBool, Pure.pure, Except.pure]

/-- What holds of the tree that names lead to holds of the tree at their path, if there is one. -/
theorem all_tree_of_descend {holds : Tree → Bool} (linkless : disk.HasNoLinks)
    (relative : root.head? ≠ some '/') (straight : .up ∉ root.components)
    (held : ((Inode.directory disk.entries).descend root.names).all
      (fun inode => holds (inode.toTree root)) = true) : (disk.tree root).all holds = true := by
  rw [tree]
  split
  · next linked =>
    -- A link at the root would be one of the disk.
    cases linkless.isLink_eq_false (descend_of_lookUp linkless relative straight linked)
  · next found _ =>
    rw [descend_of_lookUp linkless relative straight found] at held
    exact held
  · rfl

/-- A root exists exactly if there is a tree to walk. -/
theorem contains_eq_isSome (disk : Disk) (root : Path) :
    disk.contains root = (disk.tree root).isSome := by
  rw [contains, tree]
  split <;> simp_all [Except.isOk, Except.toBool]

end Disk

namespace SourceTree

/-- On a disk without links, a walk that lists all the directories it enters shows what the working
directory holds. -/
theorem walks_disk (linkless : disk.HasNoLinks) (relative : root.head? ≠ some '/')
    (straight : .up ∉ root.components)
    (listed : (disk.tree root).all (fun tree => (source.faultsAt root tree).isEmpty) = true) :
    Walks Disk.fileSystem disk source (Inode.directory disk.entries).asTree root
      (disk.tree root) := by
  -- No fault is reported, so no directory that the walk enters is unlisted.
  have faultless : ∀ tree, disk.tree root = some tree → ∀ names reason, source.Admits names →
      ¬ tree.Leads names (.unlisted reason) := by
    intro tree met names reason admitted
    rw [met, Option.all_some, List.isEmpty_iff] at listed
    exact not_leads_of_faultsAt listed admitted
  refine ⟨congrArg (·, disk) (disk.contains_eq_isSome root), rfl, faultless, fun tree met => ?_⟩
  have shown := faultless tree met
  rw [Disk.tree] at met
  split at met
  · next linked =>
    -- A root that is a link would be one of the disk.
    cases linkless.isLink_eq_false (Disk.descend_of_lookUp linkless relative straight linked)
  · next _ inode found _ =>
    obtain rfl : inode.toTree root = tree := Option.some.inj met
    have held := Disk.descend_of_lookUp linkless relative straight found
    exact ⟨inode.asTree, Inode.leads_of_descend held, fun names => Inode.leads_toTree_iff shown⟩
  · cases met

end SourceTree

end TokenGuard
