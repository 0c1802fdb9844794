import Fleet.Files.Path

/-!
# Entries of a file system

What a name leads to, and why it may lead nowhere. A device takes the place of a file but has no
contents of its own. Names and whole paths have a greatest length, counted in bytes.
-/

namespace Fleet.Files

/-- What is at a place. -/
inductive Entry where
  | directory
  | file (contents : ByteArray)
  | device

/-- Entries by their names from a directory down. -/
abbrev Listing := List (List String × Entry)

/-- The entry that names lead to; a directory is there when something is listed below it. -/
def Listing.entryAt (listing : Listing) (names : List String) : Option Entry :=
  match listing.find? fun entry => entry.1 == names with
  | some (_, entry) => some entry
  | none =>
    if names.isEmpty || listing.any fun entry => names.isPrefixOf entry.1 then
      some .directory
    else
      none

/-- Why a file cannot be read. -/
inductive FileError where
  | notFound
  | notADirectory
  | isADirectory
  | tooLong
  /-- A file name holds the character with code zero. -/
  | invalidName
  /-- A path holds the character with code zero. -/
  | invalidPath
  | notText
  deriving DecidableEq, Repr

/-- The wording of the error. -/
def FileError.message : FileError → String
  | notFound => "No such file or directory (os error 2)"
  | notADirectory => "Not a directory (os error 20)"
  | isADirectory => "Is a directory (os error 21)"
  | tooLong => "File name too long (os error 36)"
  | invalidName => "Invalid argument (os error 22)"
  | invalidPath => "file name contained an unexpected NUL byte"
  | notText => "stream did not contain valid UTF-8"

/-- The greatest length of a name. -/
def longestName : Nat := 255

/-- The greatest length of a path. -/
def longestPath : Nat := 4095

/-- A text that no name can hold, because names end before the character with code zero. -/
def holdsZero (text : String) : Bool :=
  text.toList.contains '\x00'

end Fleet.Files
