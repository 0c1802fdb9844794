import Fleet.Text.Search

/-!
# Paths of files

A path is a sequence of parts between slashes. Repeated and trailing slashes and dots that stand for
the current directory do not count, except for a leading dot. The file name of a path is its last
part when that is a name; what stands before it, without the slashes and dots between them, leads to
the directory of the file.
-/

namespace Fleet.Files

/-- A part of a path. -/
inductive PathPart where
  /-- The directory itself. -/
  | current
  /-- The directory above. -/
  | above
  /-- An entry of the directory. -/
  | name (text : String)
  deriving DecidableEq, Repr

/-- A path: whether it starts at the root, and its parts. -/
structure Path where
  isAbsolute : Bool
  parts : List PathPart
  deriving DecidableEq, Repr

namespace Path

/-- The part that a text stands for. -/
def partOf : String → PathPart
  | "." => .current
  | ".." => .above
  | text => .name text

/-- The path that a text writes. -/
def ofText (text : String) : Path :=
  let isAbsolute := text.toList.head? = some '/'
  let parts := ((Text.splitAt (· == '/') text).filter fun piece => !piece.isEmpty).map partOf
  { isAbsolute := isAbsolute
    parts :=
      match parts with
      | .current :: rest =>
        let others := rest.filter (· != .current)
        if isAbsolute then others else .current :: others
      | _ => parts.filter (· != .current) }

/-- The file name, when the path ends with a name. -/
def fileName (path : Path) : Option String :=
  match path.parts.getLast? with
  | some (.name text) => some text
  | _ => none

/-- Characters in reverse without the slashes and lone dots in front; a single slash stays. -/
def dropSeparators : List Char → List Char
  | [] => []
  | [character] => [character]
  | first :: second :: rest =>
    if first = '/' || (first = '.' && second = '/') then dropSeparators (second :: rest)
    else first :: second :: rest

/-- The text of the directory of the file that a text leads to. -/
def directoryText (text : String) : String :=
  let before := (dropSeparators text.toList.reverse).dropWhile (· != '/')
  if before.isEmpty then "." else String.ofList (dropSeparators before).reverse

/-- Only a directory can be meant: the text ends with a slash or with dots after one. -/
def meansDirectory (text : String) : Bool :=
  match (Text.splitAt (· == '/') text).getLast? with
  | some last => last.isEmpty || last == "." || last == ".."
  | none => true

end Path

end Fleet.Files
