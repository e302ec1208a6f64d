import TokenGuard.FileSystem

/-! Source trees: the files below some roots that have an allowed extension and no excluded name. -/

namespace TokenGuard

/-- Which files to look at. -/
structure SourceTree where
  /-- The directories or files to start at. -/
  roots : List Path
  /-- The extensions of the files to look at, with or without a leading dot. -/
  extensions : List Text
  /-- Names to pass over; one that starts with an asterisk stands for every name with its ending. -/
  exclude : List Text
  deriving DecidableEq

/-- The files found, and what went wrong on the way. -/
structure SourceFiles where
  files : List Path
  errors : List Text
  deriving DecidableEq

/-- A letter of ASCII as a small letter. -/
def lowerAscii (c : Char) : Char :=
  if 'A' ≤ c && c ≤ 'Z' then Char.ofNat (c.toNat + 32) else c

namespace SourceTree

/-- Whether a pattern excludes a name. -/
def excludes (pattern name : Text) : Bool :=
  match pattern with
  | '*' :: ending => ending.isSuffixOf name
  | _ => name == pattern

/-- Whether a name is passed over. -/
def isExcluded (source : SourceTree) (name : Text) : Bool :=
  source.exclude.any fun pattern => excludes pattern name

/-- An allowed extension as it is compared. -/
def extensionKey (allowed : Text) : Text := (allowed.dropWhile (· = '.')).map lowerAscii

/-- Whether a path has an allowed extension, the case of ASCII letters aside. -/
def allows (source : SourceTree) (path : Path) : Bool :=
  match path.extension? with
  | some extension => (source.extensions.map extensionKey).contains (extension.map lowerAscii)
  | none => false

/-- The files at or below a path that are not passed over, whatever the path itself is called. -/
def filesAt (source : SourceTree) (path : Path) : Tree → List Path
  | .file => if source.allows path then [path] else []
  | .directory entries => filesBelow source path entries
  | .other => []
  | .unlisted _ => []
where
  filesBelow (source : SourceTree) (path : Path) : List (Text × Tree) → List Path
    | [] => []
    | (name, tree) :: entries =>
      (if source.isExcluded name then [] else filesAt source (path.join name) tree) ++
        filesBelow source path entries

/-- The directories at or below a path that could not be listed, each with the reason. -/
def faultsAt (source : SourceTree) (path : Path) : Tree → List (Path × Text)
  | .unlisted reason => [(path, reason)]
  | .directory entries => faultsBelow source path entries
  | .file => []
  | .other => []
where
  faultsBelow (source : SourceTree) (path : Path) : List (Text × Tree) → List (Path × Text)
    | [] => []
    | (name, tree) :: entries =>
      (if source.isExcluded name then [] else faultsAt source (path.join name) tree) ++
        faultsBelow source path entries

/-- Paths without those that name the same components as the one before. -/
def dropRepeats : List Path → List Path
  | [] => []
  | path :: paths => path :: dropRepeats (paths.dropWhile (path.same ·))
termination_by paths => paths.length
decreasing_by
  -- Dropping from the rest makes it no longer.
  have := (List.dropWhile_sublist (path.same ·) (l := paths)).length_le
  simp
  omega

/-- Paths in order and without repetition; of the same components the first path is kept. -/
def orderPaths (paths : List Path) : List Path :=
  dropRepeats (paths.mergeSort fun left right => (left.compare right).isLE)

/-- The message about a directory that could not be listed on the walk from a root. -/
def faultMessage (root : Path) (fault : Path × Text) : Text :=
  "Failed to walk " ++ root ++ ": IO error for operation on " ++ fault.1 ++ ": " ++ fault.2

/-- What is found in the trees of the roots that exist. -/
def ofTrees (source : SourceTree) (trees : List (Path × Tree)) : SourceFiles :=
  ⟨orderPaths (trees.flatMap fun (root, tree) => source.filesAt root tree),
    trees.flatMap fun (root, tree) => (source.faultsAt root tree).map (faultMessage root)⟩

/-- The trees of the roots that exist. -/
def trees {m : Type → Type} [Monad m] (fs : FileSystem m) (source : SourceTree) :
    m (List (Path × Tree)) := do
  let found ← source.roots.mapM fun root => do
    return (← fs.tree source.isExcluded root).map fun tree => (root, tree)
  return found.filterMap id

/-- Collect the files; roots that do not exist are passed over. -/
def collect {m : Type → Type} [Monad m] (fs : FileSystem m) (source : SourceTree) :
    m SourceFiles := do
  return source.ofTrees (← source.trees fs)

end SourceTree

end TokenGuard
