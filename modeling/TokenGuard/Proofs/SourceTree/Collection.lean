import Mathlib.Data.List.Nodup
import TokenGuard.Proofs.FileSystem.Walk
import TokenGuard.Proofs.SourceTree.Order

/-! What is collected: the regular files at or below the roots, each path once and in order. -/

namespace TokenGuard.SourceTree

variable {σ : Type} {fs : FileSystem (StateM σ)} {s : σ} {source : SourceTree} {base : Tree}
  {root path : Path} {tree : Tree} {found : Path → Option Tree}

/-- A path lies at a root or below it, by names of which none is passed over. -/
def Covers (source : SourceTree) (root path : Path) : Prop :=
  ∃ names : List Text, path.components = root.components ++ names.map .name ∧ source.Admits names

/-- Whether a path has an allowed extension depends on what it names. -/
theorem allows_congr {left right : Path} (same : left.components = right.components) :
    source.allows left = source.allows right := by
  rw [allows, allows, Path.extension?, Path.extension?, Path.fileName?, Path.fileName?, same]

/-- Visits that each leave the state as it is give their results in a row. -/
theorem mapM_run {α β : Type} {visit : α → StateM σ β} {result : α → β} {items : List α}
    (visits : ∀ item ∈ items, (visit item).run s = (result item, s)) :
    (items.mapM visit).run s = (items.map result, s) := by
  -- Each visit starts from the state that the ones before it left, which is the first one.
  induction items with
  | nil => rfl
  | cons item items ih =>
    obtain ⟨first, rest⟩ := List.forall_mem_cons.mp visits
    rw [List.mapM_cons, StateT.run_bind, first]
    show (items.mapM visit >>= fun results => pure (result item :: results)).run s = _
    rw [StateT.run_bind, ih rest]
    rfl

/-- The roots that exist, each with the tree that the walk from it finds. -/
def existing (source : SourceTree) (found : Path → Option Tree) : List (Path × Tree) :=
  source.roots.filterMap fun root => (found root).map (Prod.mk root)

/-- A root that exists stands with what the walk from it finds. -/
theorem mem_existing_iff {tree : Tree} :
    (root, tree) ∈ source.existing found ↔ root ∈ source.roots ∧ found root = some tree := by
  rw [existing, List.mem_filterMap]
  constructor
  · -- A root is kept together with its own tree, and with no other one.
    rintro ⟨other, listed, same⟩
    obtain ⟨_, met, same⟩ := Option.map_eq_some_iff.mp same
    obtain ⟨rfl, rfl⟩ := Prod.mk.inj same
    exact ⟨listed, met⟩
  · rintro ⟨listed, met⟩
    exact ⟨root, listed, by rw [met]; rfl⟩

/-- Walks from all roots give the trees of those that exist. -/
theorem trees_run (walks : ∀ root ∈ source.roots, Walks fs s source base root (found root)) :
    (source.trees fs).run s = (source.existing found, s) := by
  rw [trees, StateT.run_bind, mapM_run fun root member => ?_]
  · show ((source.roots.map fun root => (found root).map (Prod.mk root)).filterMap id, s) = _
    rw [List.filterMap_map]
    rfl
  · rw [StateT.run_bind, (walks root member).tree]
    rfl

/-- The files that walks from the roots find. -/
def filesOf (source : SourceTree) (found : Path → Option Tree) : List Path :=
  orderPaths ((source.existing found).flatMap fun (root, tree) => source.filesAt root tree)

/-- Walks that meet no fault collect the files that they find. -/
theorem collect_run (walks : ∀ root ∈ source.roots, Walks fs s source base root (found root)) :
    (collect fs source).run s = (⟨source.filesOf found, []⟩, s) := by
  -- Messages are made for faults of the walks, of which there are none.
  have faultless : ((source.existing found).flatMap fun (root, tree) =>
      (source.faultsAt root tree).map (faultMessage root)) = [] := by
    refine List.flatMap_eq_nil_iff.mpr fun (root, tree) member => ?_
    obtain ⟨listed, met⟩ := mem_existing_iff.mp member
    exact List.map_eq_nil_iff.mpr (faultsAt_eq_nil tree root ((walks root listed).faultless tree met))
  rw [collect, StateT.run_bind, trees_run walks]
  show (ofTrees source _, s) = _
  rw [ofTrees, faultless]
  rfl

/-- What a walk from a root finds names a regular file below the root, and by names of which none is
passed over. -/
theorem leads_of_mem_filesAt_root (proper : base.isProper = true)
    (walks : Walks fs s source base root (some tree)) (member : path ∈ source.filesAt root tree) :
    source.allows path = true ∧ base.Leads path.names .file ∧ source.Covers root path := by
  obtain ⟨allowed, names, leads, admitted, rfl⟩ := mem_filesAt_iff.mp member
  -- The tree that the walk found is a part of the whole one, which the names of the root lead to.
  obtain ⟨whole, lies, shown⟩ := walks.whole tree rfl
  have leads := lies.append ((shown names admitted).mp leads)
  have named := fun name member => leads.isEntryName proper name (List.mem_append_right _ member)
  -- Every name is one that an entry can have, so each of them adds one component to the root.
  have below := Path.components_foldl_join named root
  exact ⟨allowed, Path.names_of_components below ▸ leads, names, below, admitted⟩

/-- A regular file below a root is found by the walk from the root, if none of the names on its way
from there is passed over. -/
theorem exists_mem_filesAt_root (proper : base.isProper = true)
    (walks : Walks fs s source base root (some tree)) (allowed : source.allows path = true)
    (leads : base.Leads path.names .file) (covers : source.Covers root path) :
    ∃ file ∈ source.filesAt root tree, file.components = path.components := by
  obtain ⟨names, below, admitted⟩ := covers
  obtain ⟨whole, lies, shown⟩ := walks.whole tree rfl
  rw [Path.names_of_components below] at leads
  have named := fun name member => leads.isEntryName proper name (List.mem_append_right _ member)
  have same : (names.foldl .join root).components = path.components :=
    (Path.components_foldl_join named root).trans below.symm
  -- The names of the root lead to one place, so the rest of the way starts there.
  obtain ⟨middle, start, rest⟩ := Tree.exists_leads_of_append leads
  obtain rfl := start.unique lies proper
  refine ⟨_, mem_filesAt_iff.mpr ⟨?_, names, (shown names admitted).mpr rest, admitted, rfl⟩, same⟩
  rw [allows_congr same, allowed]

/-- A path is collected exactly if it has an allowed extension, names lead to a regular file there,
and it lies at a root that exists or below it, by names of which none is passed over. -/
theorem mem_filesOf_iff (proper : base.isProper = true)
    (walks : ∀ root ∈ source.roots, Walks fs s source base root (found root)) :
    path.components ∈ (source.filesOf found).map Path.components ↔
      source.allows path = true ∧ base.Leads path.names .file ∧
        ∃ root ∈ source.roots, (fs.contains root).run s = (true, s) ∧ source.Covers root path := by
  rw [filesOf, mem_map_orderPaths]
  constructor
  · -- A collected path names what some file of a walk names, and the conditions speak of what a
    -- path names.
    intro member
    obtain ⟨file, member, same⟩ := List.mem_map.mp member
    obtain ⟨⟨root, tree⟩, exists_, member⟩ := List.mem_flatMap.mp member
    obtain ⟨listed, met⟩ := mem_existing_iff.mp exists_
    have walk := walks root listed
    rw [met] at walk
    obtain ⟨allowed, leads, names, below, admitted⟩ :=
      leads_of_mem_filesAt_root proper walk member
    rw [Path.names, same] at leads
    exact ⟨allows_congr same ▸ allowed, leads, root, listed, walk.contains, names,
      same ▸ below, admitted⟩
  · -- A root that exists has a tree, and its walk finds the file under a path of the same
    -- components.
    rintro ⟨allowed, leads, root, listed, exists_, covers⟩
    have walk := walks root listed
    obtain ⟨tree, met⟩ : ∃ tree, found root = some tree := by
      rw [walk.contains] at exists_
      exact Option.isSome_iff_exists.mp (Prod.mk.inj exists_).1
    rw [met] at walk
    obtain ⟨file, member, same⟩ := exists_mem_filesAt_root proper walk allowed leads covers
    exact List.mem_map.mpr
      ⟨file, List.mem_flatMap.mpr ⟨_, mem_existing_iff.mpr ⟨listed, met⟩, member⟩, same⟩

/-- A path starts like the root at or below which it lies. -/
theorem Covers.mem_components_iff {start : Component} (covers : source.Covers root path)
    (noName : start.name? = none) : start ∈ path.components ↔ start ∈ root.components := by
  obtain ⟨names, below, -⟩ := covers
  rw [below, List.mem_append, or_iff_left]
  intro member
  obtain ⟨name, -, rfl⟩ := List.mem_map.mp member
  cases noName

/-- Two collected paths that go by the same names, and of which either both or none starts expressly
at the current directory, are one path. -/
theorem eq_of_names_of_mem_filesOf {left right : Path} (proper : base.isProper = true)
    (uniform : (∀ root ∈ source.roots, .root ∈ root.components) ∨
      ∀ root ∈ source.roots, .root ∉ root.components)
    (straight : ∀ root ∈ source.roots, .up ∉ root.components)
    (walks : ∀ root ∈ source.roots, Walks fs s source base root (found root))
    (ofLeft : left ∈ source.filesOf found) (ofRight : right ∈ source.filesOf found)
    (same : left.names = right.names)
    (dotted : .here ∈ left.components ↔ .here ∈ right.components) : left = right := by
  obtain ⟨-, -, leftRoot, listed, -, covers⟩ :=
    (mem_filesOf_iff proper walks).mp (List.mem_map_of_mem ofLeft)
  obtain ⟨-, -, rightRoot, listed', -, covers'⟩ :=
    (mem_filesOf_iff proper walks).mp (List.mem_map_of_mem ofRight)
  -- A path starts like its root, so all collected paths are absolute or none is, and none leads
  -- upwards.
  have sameComponents : left.components = right.components := by
    refine Path.components_eq_of_names ?_ ?_ same ?_ dotted
    · rw [covers.mem_components_iff rfl]
      exact straight leftRoot listed
    · rw [covers'.mem_components_iff rfl]
      exact straight rightRoot listed'
    · rw [covers.mem_components_iff rfl, covers'.mem_components_iff rfl]
      rcases uniform with absolute | relative
      · exact iff_of_true (absolute leftRoot listed) (absolute rightRoot listed')
      · exact iff_of_false (relative leftRoot listed) (relative rightRoot listed')
  -- What is collected names nothing twice, so the same components are those of one path.
  exact List.inj_on_of_nodup_map (ascending_orderPaths _).nodup_components ofLeft ofRight
    sameComponents

/-- Roots that are listed otherwise, or more than once, give the same paths. -/
theorem map_components_filesOf {roots : List Path} (proper : base.isProper = true)
    (walks : ∀ root ∈ source.roots, Walks fs s source base root (found root))
    (walks' : ∀ root ∈ roots, Walks fs s { source with roots } base root (found root))
    (same : ∀ root, root ∈ roots ↔ root ∈ source.roots) :
    (filesOf { source with roots } found).map Path.components =
      (source.filesOf found).map Path.components := by
  -- Only whether a path is collected matters, and that does not depend on the order of the roots.
  refine (ascending_orderPaths _).map_components_eq (ascending_orderPaths _) fun path => ?_
  refine (mem_filesOf_iff proper walks').trans (Iff.trans ?_ (mem_filesOf_iff proper walks).symm)
  simp only [same]
  rfl

/-- From roots that all start in one directory, collecting gives, in strictly ascending order, exactly
the paths with an allowed extension of the regular files at or below the roots that exist, unless a
name below the root is passed over. As the roots are all absolute or all relative and no step of them
leads upwards, two such paths of one file differ at most in an express start at the current
directory. Neither the order of the roots nor a repetition among them shows in what is collected. -/
theorem collect_exact (proper : base.isProper = true)
    (uniform : (∀ root ∈ source.roots, .root ∈ root.components) ∨
      ∀ root ∈ source.roots, .root ∉ root.components)
    (straight : ∀ root ∈ source.roots, .up ∉ root.components)
    (walks : ∀ root ∈ source.roots, Walks fs s source base root (found root)) :
    ∃ files, (collect fs source).run s = (⟨files, []⟩, s) ∧
      files.Pairwise (fun left right => left.compare right = .lt) ∧
      (∀ path : Path, path.components ∈ files.map Path.components ↔
        source.allows path = true ∧ base.Leads path.names .file ∧
          ∃ root ∈ source.roots, (fs.contains root).run s = (true, s) ∧ source.Covers root path) ∧
      (∀ left ∈ files, ∀ right ∈ files, left.names = right.names →
        (.here ∈ left.components ↔ .here ∈ right.components) → left = right) ∧
      ∀ roots : List Path, (∀ root, root ∈ roots ↔ root ∈ source.roots) →
        ∃ others, (collect fs { source with roots }).run s = (⟨others, []⟩, s) ∧
          others.map Path.components = files.map Path.components := by
  refine ⟨source.filesOf found, collect_run walks, ascending_orderPaths _,
    fun path => mem_filesOf_iff proper walks, fun left ofLeft right ofRight => ?_,
    fun roots same => ?_⟩
  · exact eq_of_names_of_mem_filesOf proper uniform straight walks ofLeft ofRight
  · -- A walk does not look at the list of roots.
    have walks' : ∀ root ∈ roots, Walks fs s { source with roots } base root (found root) := by
      intro root member
      have walk := walks root ((same root).mp member)
      exact ⟨walk.contains, walk.tree, walk.faultless, walk.whole⟩
    exact ⟨_, collect_run walks', map_components_filesOf proper walks walks' same⟩

/-- A disk with a directory of packages among its sources. -/
def nestedDisk : Disk :=
  ⟨[("app", .directory [("Card.tsx", .file []),
    ("node_modules", .directory [("kit", .directory [("index.tsx", .file [])])])])]⟩

/-- Overlapping roots, one of them in a directory that is passed over from another one. -/
def nestedSource : SourceTree :=
  ⟨["app/node_modules/kit", "app", "app/Card.tsx", "gone"], ["tsx"], ["node_modules"]⟩

/-- A file in a directory that is passed over is collected if a root lies there. -/
theorem collect_exact_nested :
    ∃ files, (collect Disk.fileSystem nestedSource).run nestedDisk = (⟨files, []⟩, nestedDisk) ∧
      Path.components "app/node_modules/kit/index.tsx" ∈ files.map Path.components ∧
      files.Pairwise (fun left right => left.compare right = .lt) := by
  have straight : ∀ root ∈ nestedSource.roots, .up ∉ Path.components root := by decide +kernel
  have linkless : nestedDisk.HasNoLinks := by decide +kernel
  have relative : ∀ root ∈ nestedSource.roots, List.head? root ≠ some '/' := by decide +kernel
  -- Where names lead can be evaluated, and all roots but the last one lead to something.
  have held : ∀ root ∈ nestedSource.roots,
      ((Inode.directory nestedDisk.entries).descend (Path.names root)).all (fun inode =>
        (nestedSource.faultsAt root (inode.toTree root)).isEmpty) = true := by decide +kernel
  have present : nestedDisk.contains "app/node_modules/kit" = true :=
    Disk.contains_of_descend linkless (by decide) rfl rfl (by decide +kernel) rfl
  obtain ⟨files, run, ordered, exact, -⟩ :=
    collect_exact (by decide +kernel) (.inr (by decide +kernel)) straight
      fun root member => walks_disk linkless (relative root member) (straight root member)
        (Disk.all_tree_of_descend linkless (relative root member) (straight root member)
          (held root member))
  refine ⟨files, run, (exact _).mpr ⟨by decide +kernel, ?_, "app/node_modules/kit", ?_, ?_, ?_⟩,
    ordered⟩
  · show (Inode.directory nestedDisk.entries).asTree.Leads _ (Inode.file []).asTree
    exact Inode.leads_of_descend rfl
  · exact .head _
  · exact congrArg (·, nestedDisk) present
  · exact ⟨["index.tsx"], by decide +kernel, by unfold Admits; decide +kernel⟩

end TokenGuard.SourceTree
