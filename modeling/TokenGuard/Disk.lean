import TokenGuard.FileSystem

/-! A disk held in memory: a directory of files, links and further directories. -/

namespace TokenGuard

/-- What a directory holds under a name. -/
inductive Inode
  /-- A file with its bytes. -/
  | file (content : List UInt8)
  /-- A symbolic link with its target. -/
  | link (target : Path)
  /-- A directory with its entries in order of their names. -/
  | directory (entries : List (Text × Inode))

/-- A disk is the content of the working directory, beside and above which nothing exists. -/
structure Disk where
  entries : List (Text × Inode)

/-- How a walk along a path goes. -/
structure Manner where
  /-- Whether a link at the very end is followed. -/
  followLast : Bool
  /-- Whether names that are missing are passed as if they were directories without entries. -/
  passMissing : Bool

/-- A place on a disk: the names that lead down to it, the last one first. -/
inductive Place
  | inside (names : List Text)
  /-- Above the working directory. -/
  | outside
  deriving DecidableEq

namespace Inode

/-- The inode below another one at the end of some names. -/
def descend : List Text → Inode → Option Inode
  | [], inode => some inode
  | name :: names, directory entries => do descend names (← entries.lookup name)
  | _ :: _, _ => none

/-- Put an entry among others, in order of their names, in place of one with its name. -/
def putEntry (name : Text) (inode : Inode) : List (Text × Inode) → List (Text × Inode)
  | [] => [(name, inode)]
  | (other, old) :: entries =>
    match Text.compareBytes name other with
    | .lt => (name, inode) :: (other, old) :: entries
    | .eq => (name, inode) :: entries
    | .gt => (other, old) :: putEntry name inode entries

/-- Entries without the one of a name. -/
def dropEntry (name : Text) (entries : List (Text × Inode)) : List (Text × Inode) :=
  entries.filter (·.1 ≠ name)

/-- The entries of a directory; anything else has none. -/
def entries : Inode → List (Text × Inode)
  | directory entries => entries
  | _ => []

/-- Change the directory at the end of some names, making the directories that are missing. -/
def alter (change : List (Text × Inode) → List (Text × Inode)) :
    List Text → List (Text × Inode) → List (Text × Inode)
  | [], entries => change entries
  | name :: names, entries =>
    let below := ((entries.lookup name).map Inode.entries).getD []
    putEntry name (directory (alter change names below)) entries

/-- The number of bytes that a name may have. -/
def nameLimit : Nat := 255

/-- Whether a name has too many bytes. -/
def isLongName (name : Text) : Bool := nameLimit < name.byteSize

/-- The number of bytes that a path may have. -/
def pathLimit : Nat := 4095

/-- Whether a path has too many bytes. -/
def isLongPath (path : Path) : Bool := pathLimit < Text.byteSize path

/-- An inode as the walk of a tree meets it under a path. -/
def toTree (path : Path) : Inode → Tree
  | file _ => .file
  | link _ => .other
  | directory entries =>
    if isLongPath path then .unlisted FileFault.nameTooLong.message
    else .directory (toTrees path entries)
where
  toTrees (path : Path) : List (Text × Inode) → List (Text × Tree)
    | [] => []
    | (name, inode) :: entries => (name, inode.toTree (path.join name)) :: toTrees path entries

/-- The files and links at or below a path, each with its own path. -/
def leaves (path : Path) : Inode → List (Path × Inode)
  | directory entries => leavesBelow path entries
  | inode => [(path, inode)]
where
  leavesBelow (path : Path) : List (Text × Inode) → List (Path × Inode)
    | [] => []
    | (name, inode) :: entries => leaves (path.join name) inode ++ leavesBelow path entries

/-- The same file or the same link; directories are told apart by what they hold. -/
def sameLeaf : Inode → Inode → Bool
  | file left, file right => left == right
  | link left, link right => left == right
  | _, _ => false

end Inode

namespace Disk

/-- The disk without files. -/
def empty : Disk := ⟨[]⟩

/-- The inode at a place; above the working directory all directories are empty. -/
def inode? (disk : Disk) : Place → Option Inode
  | .inside names => (Inode.directory disk.entries).descend names.reverse
  | .outside => some (.directory [])

/-- The place above another one. -/
def parent : Place → Place
  | .inside (_ :: names) => .inside names
  | .inside [] => .outside
  | .outside => .outside

/-- The place of a name in a directory. -/
def child (name : Text) : Place → Place
  | .inside names => .inside (name :: names)
  | .outside => .outside

/-- The number of links that may be followed on one way. -/
def linkLimit : Nat := 40

/-- The entries among which a walk goes on at a place, if it can go on there. -/
def entriesAt? (disk : Disk) (manner : Manner) (place : Place) : Option (List (Text × Inode)) :=
  match disk.inode? place with
  | some (.directory entries) => some entries
  | some _ => none
  | none => if manner.passMissing then some [] else none

/-- Walk along the parts of a path. -/
def walk (disk : Disk) (manner : Manner) : Nat → Place → List Text → Except FileFault Place
  | _, place, [] => .ok place
  | links, place, segment :: segments =>
    match disk.entriesAt? manner place with
    | none => .error .notDirectory
    | some entries =>
      if Path.isIdle segment then disk.walk manner links place segments
      else if segment = "..".toList then disk.walk manner links (parent place) segments
      else if Inode.isLongName segment then .error .nameTooLong
      else match entries.lookup segment with
        | none =>
          if manner.passMissing then disk.walk manner links (child segment place) segments
          else .error .notFound
        | some (.link target) =>
          if segments.isEmpty && !manner.followLast then .ok (child segment place)
          else match links with
            | 0 => .error .linkLimit
            | links + 1 =>
              let start := if target.head? = some '/' then .outside else place
              disk.walk manner links start (target.segments ++ segments)
        | some _ => disk.walk manner links (child segment place) segments
termination_by links _ segments => (links, segments.length)

/-- The place that a path leads to. -/
def resolve (disk : Disk) (manner : Manner) (path : Path) : Except FileFault Place :=
  if path.contains '\x00' then .error .nulCharacter
  else if path.isEmpty then .error .notFound
  else if Inode.isLongPath path then .error .nameTooLong
  else
    let start := if path.head? = some '/' then .outside else .inside []
    disk.walk manner linkLimit start path.segments

/-- The inode that a path leads to. -/
def lookUp (disk : Disk) (follow : Bool) (path : Path) : Except FileFault Inode := do
  match disk.inode? (← disk.resolve ⟨follow, false⟩ path) with
  | some inode => return inode
  | none => throw .notFound

/-- Whether a path leads to a file or directory. -/
def contains (disk : Disk) (path : Path) : Bool := (disk.lookUp true path).isOk

/-- The text of a file. -/
def readText (disk : Disk) (path : Path) : Except FileFault Text := do
  match ← disk.lookUp true path with
  | .file content =>
    match String.fromUTF8? (ByteArray.mk content.toArray) with
    | some text => return text.toList
    | none => throw .notText
  | _ => throw .isDirectory

/-- Put a file into an existing directory, in place of a file or link of its name. -/
def replaceText (disk : Disk) (path : Path) (content : Text) : Except FileFault Disk := do
  if path.contains '\x00' then throw .nulCharacter
  match path.entry? with
  | none => throw .isDirectory
  | some (directory, name) =>
    match ← disk.resolve ⟨true, false⟩ directory with
    | .outside => throw .notFound
    | .inside names =>
      if Inode.isLongName name || Inode.isLongPath path then throw .nameTooLong
      match disk.inode? (.inside names) with
      | some (.directory entries) =>
        match entries.lookup name with
        | some (.directory _) => throw .isDirectory
        | _ =>
          let put := Inode.putEntry name (.file (Text.utf8 content))
          return ⟨Inode.alter put names.reverse disk.entries⟩
      | _ => throw .notDirectory

/-- The tree at a path; of the links only one at the path itself is followed, and to a directory. -/
def tree (disk : Disk) (path : Path) : Option Tree :=
  match disk.lookUp true path, disk.lookUp false path with
  | .ok (.file _), .ok (.link _) => some .other
  | .ok inode, _ => some (inode.toTree path)
  | .error _, _ => none

/-- Put something at a place that names lead down to, making the directories above it. -/
def putAt (disk : Disk) (names : List Text) (inode : Inode) : Disk :=
  match names with
  | [] => disk
  | name :: above => ⟨Inode.alter (Inode.putEntry name inode) above.reverse disk.entries⟩

/-- Put something where a path leads to; a link is put in place of one, all else where
it leads to. -/
def put (disk : Disk) (path : Path) (inode : Inode) : Disk :=
  let manner : Manner := ⟨!(inode matches .link _), true⟩
  match disk.resolve manner path with
  | .ok (.inside names) =>
    match inode, disk.inode? (.inside names) with
    -- A directory that is there already keeps its entries.
    | .directory _, some (.directory _) => disk
    | _, _ => disk.putAt names inode
  | _ => disk

/-- Take away what is under a path, with everything below it. -/
def remove (disk : Disk) (path : Path) : Disk :=
  match disk.resolve ⟨false, false⟩ path with
  | .ok (.inside (name :: above)) =>
    ⟨Inode.alter (Inode.dropEntry name) above.reverse disk.entries⟩
  | _ => disk

/-- The files and links of a disk with their paths. -/
def leaves (disk : Disk) : List (Path × Inode) := (Inode.directory disk.entries).leaves []

/-- The files and links that another disk has in place of those of this one, `none` for
a lost one. -/
def changes (old new : Disk) : List (Path × Option Inode) :=
  let before := old.leaves
  let after := new.leaves
  let lost := before.filter fun leaf => (after.lookup leaf.1).isNone
  let fresh := after.filter fun leaf =>
    !((before.lookup leaf.1).any fun inode => inode.sameLeaf leaf.2)
  lost.map (fun leaf => (leaf.1, none)) ++ fresh.map fun leaf => (leaf.1, some leaf.2)

/-- The operations of a disk that is the state of a computation. -/
def fileSystem : FileSystem (StateM Disk) where
  contains path := do return (← get).contains path
  readText path := do return (← get).readText path
  replaceText path content := do
    match (← get).replaceText path content with
    | .ok disk =>
      set disk
      return .ok ()
    | .error fault => return .error fault
  tree _ path := do return (← get).tree path

end Disk

end TokenGuard
