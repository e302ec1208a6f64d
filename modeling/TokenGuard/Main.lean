import TokenGuard.CommandLine.Run

/-! The program: the files of the machine, and the entry point. -/

namespace TokenGuard.Machine

/-- The fault behind an error of the system. -/
def faultOf : IO.Error → FileFault
  | .noFileOrDirectory .. => .notFound
  | .inappropriateType _ 20 _ => .notDirectory
  | .inappropriateType _ 21 _ => .isDirectory
  | .invalidArgument _ 36 _ => .nameTooLong
  | .invalidArgument _ 40 _ => .linkLimit
  | error => .other (toString error).toList

/-- Run an action and keep what goes wrong as a fault. -/
def catchFault {α : Type} (action : IO α) : IO (Except FileFault α) := do
  match ← action.toBaseIO with
  | .ok value => return .ok value
  | .error error => return .error (faultOf error)

/-- Whether a path leads to a file or directory; the empty path never does. -/
def contains (path : Path) : IO Bool := do
  if path.isEmpty then return false
  ((← IO.currentDir) / String.ofList path).pathExists

/-- The bytes of a file. -/
def readBytes (path : Path) : IO (Except FileFault ByteArray) := do
  if path.isEmpty then return .error .notFound
  let place := (← IO.currentDir) / String.ofList path
  if ← place.isDir then return .error .isDirectory
  catchFault (IO.FS.readBinFile place)

/-- The text of a file. -/
def readText (path : Path) : IO (Except FileFault Text) := do
  match ← readBytes path with
  | .error fault => return .error fault
  | .ok bytes =>
    match String.fromUTF8? bytes with
    | some text => return .ok text.toList
    | none => return .error .notText

/-- Write a text beside a file, then move it in place of the file. -/
def replaceText (path : Path) (content : Text) : IO (Except FileFault Unit) := do
  match path.entry? with
  | none => return .error .isDirectory
  | some (directory, name) =>
    let place := (← IO.currentDir) / String.ofList directory
    let target := place / String.ofList name
    let scratch := place / ("." ++ String.ofList name ++ "." ++ toString (← IO.rand 0 999999999))
    let attempt ← catchFault do
      IO.FS.writeFile scratch (String.ofList content)
      IO.FS.rename scratch target
    if attempt matches .error _ then
      let _ ← (IO.FS.removeFile scratch).toBaseIO
    return attempt

/-- Walk down from a path; a link is followed only if `follow` says so, and to a directory. -/
partial def treeAt (skip : Text → Bool) (follow : Bool) (path : Path) : IO Tree := do
  let place := (← IO.currentDir) / String.ofList path
  let kind := (← place.symlinkMetadata).type
  if kind matches .file then return .file
  let isDirectory ← place.isDir
  if !isDirectory || (kind matches .symlink && !follow) then return .other
  match ← place.readDir.toBaseIO with
  | .error error => return .unlisted (toString error).toList
  | .ok found =>
    let names := (found.toList.map (·.fileName.toList)).filter fun name => !skip name
    let names := names.mergeSort fun left right => (Text.compareBytes left right).isLE
    return .directory (← names.mapM fun name => do
      return (name, ← treeAt skip false (path.join name)))

/-- The tree at a path, if there is something. -/
def tree (skip : Text → Bool) (path : Path) : IO (Option Tree) := do
  if ← contains path then return some (← treeAt skip true path) else return none

/-- The files of the machine, seen from the current directory. -/
def fileSystem : FileSystem IO where
  contains := contains
  readText := readText
  replaceText := replaceText
  tree := tree

end TokenGuard.Machine

/-- Run the program with its arguments. -/
def main (arguments : List String) : IO UInt32 := do
  let response ← TokenGuard.CommandLine.run TokenGuard.Machine.fileSystem
    (arguments.map String.toList)
  IO.print (String.ofList response.output)
  IO.eprint (String.ofList response.complaint)
  return response.exitCode.toUInt32
