import TokenGuard.Path

/-! What a project needs of a file system: texts to read and to replace, and trees to walk. -/

namespace TokenGuard

/-- Why a file cannot be read or written. -/
inductive FileFault
  /-- A name on the way does not exist. -/
  | notFound
  /-- A directory stands where a file should. -/
  | isDirectory
  /-- A file stands where a directory should. -/
  | notDirectory
  /-- Links lead from one to the next too many times. -/
  | linkLimit
  /-- A name or the whole path has too many bytes. -/
  | nameTooLong
  /-- The path has a NUL character, which no name can have. -/
  | nulCharacter
  /-- The content is not UTF-8. -/
  | notText
  /-- Anything else, in the system's words. -/
  | other (reason : Text)
  deriving DecidableEq

/-- The wording of a fault. -/
def FileFault.message : FileFault → Text
  | notFound => "No such file or directory (os error 2)"
  | isDirectory => "Is a directory (os error 21)"
  | notDirectory => "Not a directory (os error 20)"
  | nameTooLong => "File name too long (os error 36)"
  | linkLimit => "Too many levels of symbolic links (os error 40)"
  | nulCharacter => "file name contained an unexpected NUL byte"
  | notText => "stream did not contain valid UTF-8"
  | other reason => reason

/-- A file that could not be read or written. -/
inductive FileError
  | read (path : Path) (fault : FileFault)
  | write (path : Path) (fault : FileFault)
  deriving DecidableEq

/-- The wording of an error. -/
def FileError.message : FileError → Text
  | read path fault => "Failed to read " ++ path ++ ": " ++ fault.message
  | write path fault => "Failed to write " ++ path ++ ": " ++ fault.message

/-- What a walk meets at a path. -/
inductive Tree
  /-- A regular file. -/
  | file
  /-- A directory with its entries in order of their names. -/
  | directory (entries : List (Text × Tree))
  /-- Anything that is not walked into, such as a link. -/
  | other
  /-- A directory whose entries cannot be listed, and why. -/
  | unlisted (reason : Text)

/-- A file system whose operations run in a monad. -/
structure FileSystem (m : Type → Type) where
  /-- Whether a path leads to a file or directory, links being followed. -/
  contains : Path → m Bool
  /-- The text of a file. -/
  readText : Path → m (Except FileFault Text)
  /-- Replace the text of a file at once, or make the file. -/
  replaceText : Path → Text → m (Except FileFault Unit)
  /-- The tree at a path; entries with names that the condition rejects may be left out. -/
  tree : (Text → Bool) → Path → m (Option Tree)

namespace FileSystem

variable {m : Type → Type} [Monad m]

/-- Read a file. -/
def read (fs : FileSystem m) (path : Path) : m (Except FileError Text) := do
  return (← fs.readText path).mapError (.read path)

/-- Write a file. -/
def write (fs : FileSystem m) (path : Path) (content : Text) : m (Except FileError Unit) := do
  return (← fs.replaceText path content).mapError (.write path)

end FileSystem

end TokenGuard
