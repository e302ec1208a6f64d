import TokenGuard.Proofs.Path.Components
import TokenGuard.SourceTree

/-! What a walk finds: the regular files with an allowed extension to which names lead of which none
is passed over. -/

namespace TokenGuard

variable {tree last middle : Tree} {names front back : List Text} {entries : List (Text × Tree)}

namespace Tree

/-- Names lead from a tree to what is below it, one name for each directory on the way. -/
inductive Leads : Tree → List Text → Tree → Prop
  | stay {tree : Tree} : Leads tree [] tree
  | enter {entries : List (Text × Tree)} {name : Text} {tree last : Tree} {names : List Text}
    (member : (name, tree) ∈ entries) (leads : Leads tree names last) :
    Leads (directory entries) (name :: names) last

/-- Names that lead on behind others lead all the way. -/
theorem Leads.append (leads : tree.Leads front middle) (onward : middle.Leads back last) :
    tree.Leads (front ++ back) last := by
  -- The way before the place in the middle is taken name by name.
  induction leads with
  | stay => exact onward
  | enter member _ ih => exact .enter member (ih onward)

/-- Without names a way stays where it is. -/
theorem leads_nil_iff : tree.Leads [] last ↔ tree = last := by
  constructor
  · rintro ⟨⟩
    rfl
  · rintro rfl
    exact .stay

/-- A way through a directory whose entries are made from others goes on from one of these. -/
theorem leads_map_iff {α : Type} {name : Text} {made : Text × α → Tree}
    {entries : List (Text × α)} :
    (directory (entries.map fun entry => (entry.1, made entry))).Leads (name :: names) last ↔
      ∃ entry ∈ entries, entry.1 = name ∧ (made entry).Leads names last := by
  constructor
  · rintro (_ | ⟨member, leads⟩)
    obtain ⟨entry, own, same⟩ := List.mem_map.mp member
    obtain ⟨rfl, rfl⟩ := Prod.mk.inj same
    exact ⟨entry, own, rfl, leads⟩
  · rintro ⟨entry, member, rfl, leads⟩
    exact .enter (List.mem_map.mpr ⟨entry, member, rfl⟩) leads

/-- A way can be interrupted behind any of its names. -/
theorem exists_leads_of_append (leads : tree.Leads (front ++ back) last) :
    ∃ middle, tree.Leads front middle ∧ middle.Leads back last := by
  -- Each name in front takes the way one directory further.
  induction front generalizing tree with
  | nil => exact ⟨tree, .stay, leads⟩
  | cons name front ih =>
    obtain _ | ⟨member, leads⟩ := leads
    obtain ⟨middle, start, rest⟩ := ih leads
    exact ⟨middle, .enter member start, rest⟩

/-- Whether the entries of each directory have names of their own, which may stand in a path. -/
def isProper : Tree → Bool
  | directory entries => (entries.map Prod.fst).Nodup && entriesProper entries
  | _ => true
where
  entriesProper : List (Text × Tree) → Bool
    | [] => true
    | (name, tree) :: entries =>
      Path.IsEntryName name && tree.isProper && entriesProper entries

/-- Proper entries are proper trees under names. -/
theorem entriesProper_iff : isProper.entriesProper entries = true ↔
    ∀ entry ∈ entries, Path.IsEntryName entry.1 ∧ entry.2.isProper = true := by
  induction entries with
  | nil => simp [isProper.entriesProper]
  | cons entry entries ih => simp [isProper.entriesProper, ih]

/-- A proper directory has proper entries, each under a name of its own. -/
theorem isProper_directory : (directory entries).isProper = true ↔
    (entries.map Prod.fst).Nodup ∧
      ∀ entry ∈ entries, Path.IsEntryName entry.1 ∧ entry.2.isProper = true := by
  rw [isProper, Bool.and_eq_true, decide_eq_true_iff, entriesProper_iff]

/-- The names of a way through a proper tree may stand in a path. -/
theorem Leads.isEntryName (leads : tree.Leads names last) (proper : tree.isProper = true) :
    ∀ name ∈ names, Path.IsEntryName name := by
  induction leads with
  | stay => simp
  | enter member _ ih =>
    obtain ⟨named, proper⟩ := (isProper_directory.mp proper).2 _ member
    exact List.forall_mem_cons.mpr ⟨named, ih proper⟩

/-- Names lead to one place in a proper tree. -/
theorem Leads.unique {last' : Tree} (leads : tree.Leads names last)
    (leads' : tree.Leads names last') (proper : tree.isProper = true) : last = last' := by
  induction leads with
  | stay => cases leads'; rfl
  | enter member _ ih =>
    obtain _ | ⟨member', leads'⟩ := leads'
    obtain ⟨distinct, proper⟩ := isProper_directory.mp proper
    -- No other entry of the directory has the name, so both ways enter the same tree.
    obtain ⟨-, rfl⟩ := Prod.mk.inj (eq_of_mem_of_key_eq distinct member member' rfl)
    exact ih leads' (proper _ member).2

end Tree

namespace SourceTree

variable {source : SourceTree} {path start : Path}

/-- Names of which none is passed over. -/
def Admits (source : SourceTree) (names : List Text) : Prop :=
  ∀ name ∈ names, source.isExcluded name = false

/-- What is found below a directory is found at an entry that is not passed over. -/
theorem mem_filesBelow_iff : path ∈ filesAt.filesBelow source start entries ↔
    ∃ entry ∈ entries, source.isExcluded entry.1 = false ∧
      path ∈ source.filesAt (start.join entry.1) entry.2 := by
  induction entries with
  | nil => simp [filesAt.filesBelow]
  | cons entry entries ih =>
    simp only [filesAt.filesBelow, List.mem_append, ih, List.mem_cons, exists_eq_or_imp]
    cases source.isExcluded entry.1 <;> simp

/-- A file to which admitted names lead is found. -/
theorem mem_filesAt_of_leads (leads : tree.Leads names .file) (admitted : source.Admits names)
    (allowed : source.allows (names.foldl .join start) = true) :
    names.foldl .join start ∈ source.filesAt start tree := by
  -- The end of the way is a file, which the induction on the way has to keep in mind.
  generalize ended : Tree.file = last at leads
  induction leads generalizing start with
  | stay =>
    subst ended
    simpa [filesAt] using allowed
  | enter member _ ih =>
    obtain ⟨admitted, rest⟩ := List.forall_mem_cons.mp admitted
    exact mem_filesBelow_iff.mpr ⟨_, member, admitted, ih rest allowed ended⟩

/-- Admitted names lead to whatever is found, and it has an allowed extension. -/
theorem leads_of_mem_filesAt (tree : Tree) (start : Path) (found : path ∈ source.filesAt start tree) :
    source.allows path = true ∧
      ∃ names, tree.Leads names .file ∧ source.Admits names ∧ path = names.foldl .join start := by
  match tree with
  | .file =>
    obtain ⟨allowed, rfl⟩ := by simpa [filesAt] using found
    exact ⟨allowed, [], .stay, by simp [Admits], rfl⟩
  | .directory entries =>
    obtain ⟨⟨name, below⟩, member, admitted, found⟩ := mem_filesBelow_iff.mp found
    -- What is found at an entry is led to from there, and so from the directory.
    obtain ⟨allowed, names, leads, rest, ended⟩ :=
      leads_of_mem_filesAt below (start.join name) found
    exact ⟨allowed, name :: names, .enter member leads,
      List.forall_mem_cons.mpr ⟨admitted, rest⟩, ended⟩
  | .other => cases found
  | .unlisted _ => cases found
termination_by sizeOf tree
decreasing_by
  have smaller := List.sizeOf_lt_of_mem member
  simp at smaller ⊢
  omega

/-- Found are the files with an allowed extension to which admitted names lead. -/
theorem mem_filesAt_iff : path ∈ source.filesAt start tree ↔ source.allows path = true ∧
    ∃ names, tree.Leads names .file ∧ source.Admits names ∧ path = names.foldl .join start := by
  constructor
  · exact leads_of_mem_filesAt tree start
  · rintro ⟨allowed, names, leads, admitted, rfl⟩
    exact mem_filesAt_of_leads leads admitted allowed

/-- Nothing fails below a directory if nothing does at any entry that is not passed over. -/
theorem faultsBelow_eq_nil_iff : faultsAt.faultsBelow source start entries = [] ↔
    ∀ entry ∈ entries, source.isExcluded entry.1 = false →
      source.faultsAt (start.join entry.1) entry.2 = [] := by
  induction entries with
  | nil => simp [faultsAt.faultsBelow]
  | cons entry entries ih =>
    rw [faultsAt.faultsBelow, List.append_eq_nil_iff, ih, List.forall_mem_cons]
    cases source.isExcluded entry.1 <;> simp

/-- Without faults no admitted names lead to a directory that could not be listed. -/
theorem not_leads_of_faultsAt {reason : Text} (faultless : source.faultsAt start tree = [])
    (admitted : source.Admits names) : ¬ tree.Leads names (.unlisted reason) := by
  intro leads
  -- Along the way no directory has a fault, so neither does the place where it ends.
  generalize ended : Tree.unlisted reason = last at leads
  induction leads generalizing start with
  | stay =>
    subst ended
    cases faultless
  | enter member _ ih =>
    obtain ⟨admitted, rest⟩ := List.forall_mem_cons.mp admitted
    exact ih (faultsBelow_eq_nil_iff.mp faultless _ member admitted) rest ended

/-- There are no faults if no admitted names lead to a directory that could not be listed. -/
theorem faultsAt_eq_nil (tree : Tree) (start : Path) (listed : ∀ names reason,
    source.Admits names → ¬ tree.Leads names (.unlisted reason)) :
    source.faultsAt start tree = [] := by
  match tree with
  | .file => rfl
  | .directory entries =>
    refine faultsBelow_eq_nil_iff.mpr fun ⟨name, below⟩ member admitted => ?_
    -- Admitted names from an entry lead from the directory once the name of the entry is put in
    -- front.
    refine faultsAt_eq_nil below (start.join name) fun names reason rest leads => ?_
    exact listed (name :: names) reason (List.forall_mem_cons.mpr ⟨admitted, rest⟩)
      (.enter member leads)
  | .other => rfl
  | .unlisted reason => exact absurd .stay (listed [] reason (by simp [Admits]))
termination_by sizeOf tree
decreasing_by
  have smaller := List.sizeOf_lt_of_mem member
  simp at smaller ⊢
  omega

/-- What there is at a root, seen from the directory in which the roots start: nothing, or a tree
that lies where the names of the root lead. The walk meets no fault and changes nothing, and of the
regular files it leaves out only those with a name on their way that is passed over. -/
structure Walks {σ : Type} (fs : FileSystem (StateM σ)) (s : σ) (source : SourceTree) (base : Tree)
    (root : Path) (found : Option Tree) : Prop where
  contains : (fs.contains root).run s = (found.isSome, s)
  tree : (fs.tree source.isExcluded root).run s = (found, s)
  faultless : ∀ tree, found = some tree → ∀ names reason, source.Admits names →
    ¬ tree.Leads names (.unlisted reason)
  whole : ∀ tree, found = some tree → ∃ whole, base.Leads root.names whole ∧
    ∀ names, source.Admits names → (tree.Leads names .file ↔ whole.Leads names .file)

end SourceTree

end TokenGuard
