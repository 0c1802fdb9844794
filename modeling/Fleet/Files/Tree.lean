import Fleet.Files.Host

/-!
# File trees

The files below a working directory, and the errors of reading one of them. A directory exists when
it is listed or when something is listed below it. From the root down there are the files of every
host, and nothing is known of what lies beside the working directory.
-/

namespace Fleet.Files

/-- The files below a working directory. -/
structure Tree where
  entries : Listing := []

/-- A place in the file system. -/
inductive Place where
  /-- The place that is reached by names from the working directory. -/
  | inside (names : List String)
  /-- The place that is reached by names from the root. -/
  | rooted (names : List String)
  /-- A directory around the working directory. -/
  | around
  deriving DecidableEq, Repr

namespace Tree

/-- The entry at a place. -/
def look (tree : Tree) : Place → Option Entry
  | .inside names => tree.entries.entryAt names
  | .rooted names => Host.listing.entryAt names
  | .around => some .directory

/-- Whether a directory is at a place. -/
def hasDirectory (tree : Tree) (place : Place) : Bool :=
  match tree.look place with
  | some .directory => true
  | _ => false

/-- The place that a part of a path leads to from a directory. -/
def next (place : Place) : PathPart → Option Place
  | .current => some place
  | .above =>
    match place with
    | .inside [] | .around => some .around
    | .inside names => some (.inside names.dropLast)
    | .rooted names => some (.rooted names.dropLast)
  | .name text =>
    match place with
    | .inside names => some (.inside (names ++ [text]))
    | .rooted names => some (.rooted (names ++ [text]))
    | .around => none

/-- Whether a part of a path is longer than names are. -/
def isTooLong : PathPart → Bool
  | .name text => longestName < text.utf8ByteSize
  | _ => false

/-- One step from a place, which must be a directory, to a place that exists. -/
def step (tree : Tree) (place : Place) (part : PathPart) : Except FileError Place :=
  if (tree.look place).isNone then .error .notFound
  else if !tree.hasDirectory place then .error .notADirectory
  else if isTooLong part then .error .tooLong
  else
    match next place part with
    | none => .error .notFound
    | some reached =>
      if (tree.look reached).isSome then .ok reached else .error .notFound

/-- The place that a path leads to from a directory. -/
def walk (tree : Tree) (start : Place) (path : Path) : Except FileError Place :=
  path.parts.foldlM tree.step (if path.isAbsolute then .rooted [] else start)

/-- The place that the text of a path leads to from a directory. -/
def resolveFrom (tree : Tree) (start : Place) (text : String) : Except FileError Place :=
  if holdsZero text then .error .invalidPath
  else if text.isEmpty then .error .notFound
  else if longestPath < text.utf8ByteSize then .error .tooLong
  else do
    let place ← tree.walk start (Path.ofText text)
    if Path.meansDirectory text && !tree.hasDirectory place then throw .notADirectory
    pure place

/-- The place that the text of a path leads to. -/
def resolve (tree : Tree) (text : String) : Except FileError Place :=
  tree.resolveFrom (.inside []) text

/-- The text of a file in a directory. -/
def readIn (tree : Tree) (directory name : String) : Except FileError String := do
  let place ← tree.resolve directory
  if !tree.hasDirectory place then throw .notADirectory
  if holdsZero name then throw .invalidName
  match tree.look (← tree.step place (.name name)) with
  | some (.file contents) =>
    match String.fromUTF8? contents with
    | some text => pure text
    | none => throw .notText
  | some .device => pure ""
  | some .directory => throw .isADirectory
  | none => throw .notFound

/-- The contents of the file at a place, when it is one. -/
def contents? (tree : Tree) (place : Place) : Option ByteArray :=
  match tree.look place with
  | some (.file contents) => some contents
  | _ => none

/-- The place of the file that the text of a path leads to from a directory, when it is one. -/
def file? (tree : Tree) (start : Place) (text : String) : Option Place :=
  match tree.resolveFrom start text with
  | .ok place => if (tree.contents? place).isSome then some place else none
  | .error _ => none

end Tree

/-- The directory of a place. -/
def Place.directory : Place → Place
  | .inside names => .inside names.dropLast
  | .rooted names => .rooted names.dropLast
  | .around => .around

/-- The last name that leads to a place. -/
def Place.lastName : Place → String
  | .inside names | .rooted names => names.getLast?.getD ""
  | .around => ""

end Fleet.Files
