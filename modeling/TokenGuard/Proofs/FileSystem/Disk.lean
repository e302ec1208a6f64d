import TokenGuard.Disk
import TokenGuard.Proofs.FileSystem.Map
import TokenGuard.Proofs.Path.Components

/-! The files of the working directory of a disk in memory are a map from their names to texts. -/

namespace TokenGuard

variable {disk : Disk} {name other : Path} {bytes : List UInt8} {text : Text}

namespace Inode

/-- An entry that is put among others is found under its name. -/
theorem lookup_putEntry_self (name : Text) (inode : Inode) (entries : List (Text × Inode)) :
    (putEntry name inode entries).lookup name = some inode := by
  fun_induction putEntry name inode entries with
  | case1 => simp
  | case2 => simp
  | case3 => simp
  | case4 other old entries behind ih =>
    -- A name that comes later in the order is another name.
    have different : name ≠ other := by
      intro same
      have equal : Text.compareBytes other other = .eq := Std.ReflCmp.compare_self
      rw [same, equal] at behind
      cases behind
    rw [List.lookup_cons, beq_false_of_ne different]
    exact ih

/-- Under other names the same is found as before. -/
theorem lookup_putEntry_of_ne (different : other ≠ name) (inode : Inode)
    (entries : List (Text × Inode)) :
    (putEntry name inode entries).lookup other = entries.lookup other := by
  -- The entry is put in front of all others, in place of its namesake, or further behind.
  fun_induction putEntry name inode entries with
  | case1 => simp [List.lookup_cons, beq_false_of_ne different]
  | case2 => rw [List.lookup_cons, beq_false_of_ne different]
  | case3 first old entries same =>
    have same : name = first := Std.LawfulEqCmp.eq_of_compare same
    rw [List.lookup_cons, List.lookup_cons, ← same, beq_false_of_ne different]
  | case4 first old entries behind ih =>
    rw [List.lookup_cons, List.lookup_cons, ih]

end Inode

namespace Disk

/-- The text that the bytes of a file spell. -/
def textOf (bytes : List UInt8) : Except FileFault Text :=
  match String.fromUTF8? (ByteArray.mk bytes.toArray) with
  | some text => .ok text.toList
  | none => .error .notText

/-- What the file of a name in the working directory holds. -/
def held (disk : Disk) (name : Path) : Except FileFault Text :=
  match disk.entries.lookup name with
  | some (.file bytes) => textOf bytes
  | _ => .error .notFound

/-- A path that is the name of an entry of the working directory. -/
structure IsName (name : Path) : Prop where
  filled : Path.isIdle name = false
  single : '/' ∉ name
  noParent : name ≠ "..".toList
  noNul : '\x00' ∉ name
  short : Inode.isLongName name = false

/-- The conditions on a name can be checked. -/
instance (name : Path) : Decidable (IsName name) :=
  decidable_of_iff (Path.isIdle name = false ∧ '/' ∉ name ∧ name ≠ "..".toList ∧ '\x00' ∉ name ∧
    Inode.isLongName name = false)
    ⟨fun ⟨filled, single, noParent, noNul, short⟩ => ⟨filled, single, noParent, noNul, short⟩,
      fun ⟨filled, single, noParent, noNul, short⟩ => ⟨filled, single, noParent, noNul, short⟩⟩

/-- Bytes of a text spell that text. -/
theorem textOf_utf8 (text : Text) : textOf (Text.utf8 text) = .ok text := by
  -- The bytes of a text are those of its string, which are valid by construction.
  have bytes : ByteArray.mk (Text.utf8 text).toArray = (String.ofList text).toByteArray := by
    have encoded : (String.ofList text).toByteArray = (Text.utf8 text).toByteArray := rfl
    rw [encoded]
    apply ByteArray.ext
    simp
  unfold textOf
  rw [bytes]
  have spelled : String.fromUTF8? (String.ofList text).toByteArray = some (String.ofList text) := by
    rw [String.fromUTF8?, dif_pos (String.ofList text).isValidUTF8]
    rfl
  simp only [spelled, String.toList_ofList]

namespace IsName

/-- A name is short enough for a path. -/
theorem not_isLongPath (named : IsName name) : Inode.isLongPath name = false := by
  -- The limit for names is lower than the one for paths.
  have short := named.short
  simp only [Inode.isLongName, Inode.isLongPath, Inode.nameLimit, Inode.pathLimit] at short ⊢
  have within := of_decide_eq_false short
  exact decide_eq_false (by omega)

/-- The path of a name leads to the entry of the name in the working directory. -/
theorem resolve (named : IsName name) (found : disk.entries.lookup name = some (.file bytes))
    (manner : Manner) : disk.resolve manner name = .ok (.inside [name]) := by
  -- None of the checks of a path turns a name away, and the only part of it names the entry.
  have filled : name.isEmpty = false := by
    have filled := named.filled
    simp only [Path.isIdle, Bool.or_eq_false_iff] at filled
    exact filled.1
  have relative : name.head? ≠ some '/' := by
    intro rooted
    exact named.single (List.mem_of_mem_head? rooted)
  rw [Disk.resolve, if_neg (by simpa using named.noNul), if_neg (by simp [filled]),
    if_neg (by simp [named.not_isLongPath]), if_neg relative, Path.segments_of_notMem named.single]
  have listed : disk.entriesAt? manner (.inside []) = some disk.entries := rfl
  have noParent : name ≠ ['.', '.'] := named.noParent
  simp [walk, listed, named.filled, noParent, named.short, found, child]

end IsName

/-- A file of the working directory is read under its name. -/
theorem readText_of_lookup (named : IsName name)
    (found : disk.entries.lookup name = some (.file bytes)) :
    disk.readText name = textOf bytes := by
  -- The name is resolved to its place, and the place holds the file.
  have below : disk.inode? (.inside [name]) = some (.file bytes) := by
    simp [inode?, Inode.descend, found]
  have led : disk.lookUp true name = .ok (.file bytes) := by
    rw [lookUp, named.resolve found]
    simp [Bind.bind, Except.bind, below]
    rfl
  rw [readText, led]
  rfl

/-- Writing a file of the working directory puts it in place of what was there. -/
theorem replaceText_of_lookup (named : IsName name)
    (found : disk.entries.lookup name = some (.file bytes)) (text : Text) :
    disk.replaceText name text =
      .ok ⟨Inode.putEntry name (.file (Text.utf8 text)) disk.entries⟩ := by
  -- A name is its own last part, behind an empty way to the directory.
  have entry : Path.entry? name = some (['.'], name) := by
    rw [Path.entry?, Path.segments_of_notMem named.single]
    simp [named.filled, show name ≠ ['.', '.'] from named.noParent]
  -- The directory of a name is the working directory itself.
  have around : disk.resolve ⟨true, false⟩ ['.'] = .ok (.inside []) := by
    have parts : Path.segments ['.'] = [['.']] := rfl
    have idle : Path.isIdle ['.'] = true := rfl
    have listed : disk.entriesAt? ⟨true, false⟩ (.inside []) = some disk.entries := rfl
    simp [resolve, parts, walk, listed, idle, Inode.isLongPath, Inode.pathLimit, Text.byteSize]
    decide
  have entries : disk.inode? (.inside []) = some (.directory disk.entries) := rfl
  rw [replaceText, if_neg (by simpa using named.noNul), entry]
  simp [Bind.bind, Except.bind, around, named.short, named.not_isLongPath, entries, found]
  rfl

/-- A disk on which listed names are those of files. -/
def HasFiles (disk : Disk) (listed : List Path) : Prop :=
  ∀ name ∈ listed, ∃ bytes, disk.entries.lookup name = some (.file bytes)

/-- As long as listed names are those of files of the working directory, the disk acts as a map from
them to texts. -/
theorem actsAsMap {listed : List Path} (named : ∀ name ∈ listed, IsName name) :
    ActsAsMap fileSystem held (HasFiles · listed) listed where
  read := by
    intro name member disk files
    obtain ⟨bytes, found⟩ := files name member
    refine ⟨disk, ?_, files, rfl⟩
    show (disk.readText name, disk) = _
    -- Reading does not change the disk.
    rw [readText_of_lookup (named name member) found, held, found]
  write := by
    intro name member text disk files
    obtain ⟨bytes, found⟩ := files name member
    -- The name keeps a file, and so does every other listed name.
    let disk' : Disk := ⟨Inode.putEntry name (.file (Text.utf8 text)) disk.entries⟩
    have run : (fileSystem.replaceText name text).run disk = (.ok (), disk') := by
      have replaced := replaceText_of_lookup (named name member) found text
      simp only [fileSystem, StateT.run_bind, StateT.run_get, pure_bind, replaced]
      rfl
    -- What was written is a text, and it is found at its own name alone.
    refine ⟨disk', run, ?_, ?_⟩
    · intro other inList
      by_cases same : other = name
      · refine ⟨Text.utf8 text, ?_⟩
        rw [same]
        exact Inode.lookup_putEntry_self name _ disk.entries
      · obtain ⟨bytes, found⟩ := files other inList
        exact ⟨bytes, (Inode.lookup_putEntry_of_ne same _ disk.entries).trans found⟩
    · funext other
      show held disk' other = _
      by_cases same : other = name
      · rw [if_pos same, same, held, Inode.lookup_putEntry_self]
        exact textOf_utf8 text
      · rw [if_neg same, held, Inode.lookup_putEntry_of_ne same]
        rfl

end Disk

end TokenGuard
