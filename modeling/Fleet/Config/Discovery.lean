import Fleet.Config.OtherFormats
import Fleet.Config.Setting
import Fleet.Files.Tree

/-!
# Finding the settings file

The settings file is the first of several candidates that can be read: the file that an environment
variable names, the files in the directories for settings of the user and of the host, and the file
of the usual name in the working directory. A candidate that is not there does not count, and one
that cannot be read counts only when no other one can. A settings file may extend another one, whose
values lie below its own; a circle of extensions cannot be read.
-/

namespace Fleet.Config

/-- Where configurations are loaded from. -/
structure Sources where
  environment : Table String := Table.empty
  files : Files.Tree := {}

namespace Sources

/-- The environment variable that names the settings file. -/
def fileVariable : String := "CUMULUS_CONFIG_PATH"

/-- The name of the directory of settings below the directories for settings. -/
def directoryName : String := "cumulus"

/-- The name of the settings file where all programs keep theirs side by side. -/
def hiddenName : String := "." ++ fileName

/-- The key that names an extended file. -/
def extensionKey : String := "extends"

/-- The value of an environment variable, unless it is empty. -/
def given? (sources : Sources) (name : String) : Option String :=
  (sources.environment.find? name).filter fun value => !value.isEmpty

/-- A path below a directory. -/
def below (directory path : String) : String :=
  if directory.endsWith "/" then directory ++ path else directory ++ "/" ++ path

/-- The candidates in a directory for settings. -/
def candidatesIn (directory : String) : List String :=
  [below (below directory directoryName) fileName, below directory hiddenName]

/-- The directories for settings of the host. -/
def hostDirectories (sources : Sources) : List String :=
  let named := (((sources.given? "XDG_CONFIG_DIRS").map fun value =>
    Text.splitAt (· == ':') value).getD []).filter fun directory => !directory.isEmpty
  if named.isEmpty then ["/etc/xdg"] else named

/-- The candidates for the settings file in the order in which they are tried. -/
def candidates (sources : Sources) : List String :=
  (sources.given? fileVariable).toList ++
    (sources.given? "XDG_CONFIG_HOME").toList.flatMap candidatesIn ++
    sources.hostDirectories.flatMap candidatesIn ++
    (sources.given? "HOME").toList.flatMap (fun home =>
      candidatesIn (below home ".config") ++ [below home hiddenName]) ++
    [fileName]

/-- The layer of the settings file at a place, which no file in `extending` is, above the layers of
the files that it extends. -/
def layerAt (files : Files.Tree) : Nat → List Files.Place → Files.Place → Option Layer
  | 0, _, _ => none
  | allowance + 1, extending, place => do
    let text ← String.fromUTF8? (← files.contents? place)
    let layer ← Layer.ofFile? place.lastName text
    match layer.find? extensionKey with
    | none => pure layer
    | some (.text path) => do
      let base ← files.file? place.directory path
      if (place :: extending).contains base then none
      else pure (layer.above (← layerAt files allowance (place :: extending) base))
    | some _ => none

/-- The layer of a settings file; each file of the tree or of the host can be extended once. -/
def layerOf (files : Files.Tree) (place : Files.Place) : Option Layer :=
  layerAt files (files.entries.length + Files.Host.listing.length + 1) [] place

/-- The layer of the first settings file that can be read; nothing when there are settings files but
none can be read. -/
def fileLayer (sources : Sources) : Option Layer :=
  let found := sources.candidates.filterMap (sources.files.file? (.inside []))
  if found.isEmpty then some Table.empty else found.findSome? (layerOf sources.files)

end Sources

end Fleet.Config
