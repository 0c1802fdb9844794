import Fleet.Config.SettingsFile.Value

/-!
# Settings files

A settings file gives a value to a key on each line, with an equals sign between them; a heading
opens a table, and what follows belongs to it. Blank lines and comments, which start with a number
sign, do not count, nor does a byte order mark at the start. Anything else makes the whole file
unreadable.
-/

namespace Fleet.Config

/-- Read a heading after its opening bracket: the outline with the table, and what follows. -/
def readHeading (outline : Outline) (characters : List Char) :
    Option ((Outline × Spot) × List Char) := do
  match characters with
  | '[' :: rest =>
    match ← readKeys deepest rest with
    | (keys, ']' :: ']' :: after) => pure (← outline.openNext keys, after)
    | _ => none
  | _ =>
    match ← readKeys deepest characters with
    | (keys, ']' :: after) => pure (← outline.openTable keys, after)
    | _ => none

/-- Read a key and its value in a table: the outline with the value, and what follows. -/
def readAssignment
    (outline : Outline)
    (table : Spot)
    (characters : List Char) :
    Option (Outline × List Char) := do
  match ← readKeys deepest characters with
  | (keys, '=' :: written) => do
    let (value, after) ← readValue (2 * written.length + 2) deepest (skipLineBlanks written)
    pure (← outline.assign table keys value, after)
  | _ => none

/-- The outline of lines that stand in a table, after the given one. -/
def readLines : Nat → Outline → Spot → List Char → Option Outline
  | 0, _, _, _ => none
  | allowance + 1, outline, table, characters => do
    match ← skipFiller false characters with
    | [] => pure outline
    | '[' :: heading => do
      let ((outline, table), after) ← readHeading outline heading
      readLines allowance outline table (← endLine false after)
    | line => do
      let (outline, after) ← readAssignment outline table line
      readLines allowance outline table (← endLine false after)

/-- Characters without a byte order mark. -/
def withoutMark : List Char → List Char
  | '\ufeff' :: rest => rest
  | characters => characters

/-- The layer that a settings file writes. -/
def Layer.ofText? (text : String) : Option Layer :=
  let characters := withoutMark text.toList
  (readLines (characters.length + 1) [] [] characters).map Outline.toLayer

end Fleet.Config
