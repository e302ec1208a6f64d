import TokenGuard.Text.Basic

/-! Paths: texts whose parts slashes separate, compared by the components that they name. -/

namespace TokenGuard

/-- A path is a text; different texts may name the same components. -/
abbrev Path := Text

/-- A step of a path. -/
inductive Component
  /-- The start of an absolute path. -/
  | root
  /-- The current directory, which only counts at the start of a path. -/
  | here
  /-- The parent directory. -/
  | up
  /-- An entry of a directory. -/
  | name (text : Text)
  deriving DecidableEq

namespace Component

/-- The place of a component among those of other kinds. -/
def rank : Component → Nat
  | root => 0
  | here => 1
  | up => 2
  | name _ => 3

/-- Components in order: by kind, and names byte-wise. -/
def compare : Component → Component → Ordering
  | name left, name right => Text.compareBytes left right
  | left, right => Ord.compare left.rank right.rank

/-- The component that a part between slashes stands for. -/
def ofSegment (segment : Text) : Component :=
  if segment = "..".toList then up else name segment

end Component

namespace Path

/-- The parts of a path between its slashes. -/
def segments (path : Path) : List Text := Text.splitAt '/' path

/-- A part that leads nowhere. -/
def isIdle (segment : Text) : Bool := segment.isEmpty || segment = ['.']

/-- Parts as components, without those that lead nowhere. -/
def steps (segments : List Text) : List Component :=
  (segments.filter (!isIdle ·)).map Component.ofSegment

/-- Where a path starts, and its parts from there on. -/
def origin (path : Path) : Option Component × List Text :=
  match path.segments with
  | [] :: segment :: segments => (some .root, segment :: segments)
  | ['.'] :: segments => (some .here, segments)
  | segments => (none, segments)

/-- The components of a path. -/
def components (path : Path) : List Component :=
  path.origin.1.toList ++ steps path.origin.2

/-- Two paths with the same components. -/
def same (left right : Path) : Bool := left.components == right.components

/-- Components in order, the first difference deciding. -/
def compareComponents : List Component → List Component → Ordering
  | [], [] => .eq
  | [], _ :: _ => .lt
  | _ :: _, [] => .gt
  | left :: lefts, right :: rights => (left.compare right).then (compareComponents lefts rights)

/-- Paths in order of their components. -/
def compare (left right : Path) : Ordering :=
  compareComponents left.components right.components

/-- A path seen from a directory; an absolute one stays as it is. -/
def join (base path : Path) : Path :=
  if path.head? = some '/' then path
  else if base.isEmpty || base.getLast? = some '/' then base ++ path
  else base ++ ['/'] ++ path

/-- Parts without those at the end that lead nowhere. -/
def trimEnd (segments : List Text) : List Text :=
  (segments.reverse.dropWhile isIdle).reverse

/-- The text of a path that starts somewhere and goes on with parts. -/
def ofOrigin (start : Option Component) (segments : List Text) : Path :=
  match start, segments with
  | some .root, _ => '/' :: Text.join ['/'] segments
  | some _, [] => ['.']
  | some _, _ => ['.', '/'] ++ Text.join ['/'] segments
  | none, _ => Text.join ['/'] segments

/-- The parts behind those that name the given components. -/
def stepsBelow? : List Component → List Text → Option (List Text)
  | [], segments => some (trimEnd (segments.dropWhile isIdle))
  | _ :: _, [] => none
  | step :: base, segment :: segments =>
    if isIdle segment then stepsBelow? (step :: base) segments
    else if Component.ofSegment segment = step then stepsBelow? base segments
    else none

/-- What is left of a path behind a base whose components it starts with. -/
def below? (base path : Path) : Option Path :=
  let (start, segments) := path.origin
  match base.components with
  | [] => some (ofOrigin start (trimEnd segments))
  | _ :: _ =>
    if base.origin.1 = start then
      (stepsBelow? (steps base.origin.2) segments).map (Text.join ['/'])
    else none

/-- A path as seen from a base, or unchanged where it does not lie below. -/
def relativeTo (base path : Path) : Path := (below? base path).getD path

/-- The entry that a path leads to, unless it ends elsewhere. -/
def fileName? (path : Path) : Option Text :=
  match path.components.getLast? with
  | some (.name text) => some text
  | _ => none

/-- What follows the last dot of a file's name; a dot at its start does not count. -/
def extension? (path : Path) : Option Text := do
  let reversed := (← path.fileName?).reverse
  match reversed.dropWhile (· ≠ '.') with
  | _ :: _ :: _ => return (reversed.takeWhile (· ≠ '.')).reverse
  | _ => none

/-- The directory and the name of an entry, if a path ends with a name and nothing behind it. -/
def entry? (path : Path) : Option (Path × Text) :=
  match path.segments.reverse with
  | [] => none
  | name :: before =>
    if isIdle name || name = "..".toList then none
    else match before with
      | [] => some (['.'], name)
      | [[]] => some (['/'], name)
      | _ => some (Text.join ['/'] before.reverse, name)

end Path

end TokenGuard
