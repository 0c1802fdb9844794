import Fleet.Config.Layer

/-!
# Outlines of settings files

What a settings file has said so far: the values and the tables at their places. A key may be given
once only, and a table may be opened by a heading once only; a table that came about through longer
keys can no longer be opened, and a table that was opened cannot be filled through longer keys. A
series of tables gets one more table by each of its headings, and the last one is meant by its name.
-/

namespace Fleet.Config

/-- A place: keys from the outermost inwards, each with the number of the table in a series. -/
abbrev Spot := List (String × Nat)

/-- What is at a place. -/
inductive Content where
  | value (scalar : Scalar)
  /-- A table that only came about through the heading of a table inside it. -/
  | implied
  /-- A table that came about through longer keys. -/
  | spelled
  /-- A table with a heading of its own. -/
  | opened
  /-- So many tables in a row. -/
  | series (count : Nat)
  deriving DecidableEq, Repr

/-- What is at the places of a file. -/
abbrev Outline := List (Spot × Content)

namespace Outline

/-- What is at a place. -/
def at? (outline : Outline) (spot : Spot) : Option Content :=
  (outline.find? fun entry => entry.1 == spot).map Prod.snd

/-- The outline with something at a place. -/
def put (outline : Outline) (spot : Spot) (content : Content) : Outline :=
  (spot, content) :: outline.filter fun entry => entry.1 != spot

/-- What was put at a place is found there. -/
theorem at?_put
    (outline : Outline)
    (spot : Spot)
    (content : Content) :
    (outline.put spot content).at? spot = some content := by
  simp [at?, put]

/-- Go to a table through keys, making the tables that are missing; `spelling` says that the keys
lead to a value rather than a heading. -/
def descend
    (spelling : Bool)
    (outline : Outline)
    (spot : Spot) :
    List String → Option (Outline × Spot)
  | [] => some (outline, spot)
  | key :: rest =>
    let here := spot ++ [(key, 0)]
    match outline.at? here with
    | none =>
      descend spelling (outline.put here (if spelling then .spelled else .implied)) here rest
    | some (.value _) => none
    | some (.series count) => descend spelling outline (spot ++ [(key, count)]) rest
    | some .opened => if spelling then none else descend spelling outline here rest
    | some .implied | some .spelled => descend spelling outline here rest

/-- Give a value to keys in a table. -/
def assign
    (outline : Outline)
    (table : Spot)
    (keys : List String)
    (scalar : Scalar) :
    Option Outline := do
  let (outline, owner) ← descend true outline table keys.dropLast
  let here := owner ++ [(← keys.getLast?, 0)]
  if keys.length ≠ 1 && outline.at? owner != some .spelled then none
  else if (outline.at? here).isSome then none
  else some (outline.put here (.value scalar))

/-- Open the table of a heading. -/
def openTable (outline : Outline) (keys : List String) : Option (Outline × Spot) := do
  let (outline, owner) ← descend false outline [] keys.dropLast
  let here := owner ++ [(← keys.getLast?, 0)]
  match outline.at? here with
  | none | some .implied => some (outline.put here .opened, here)
  | _ => none

/-- Add a table to the series of a heading. -/
def openNext (outline : Outline) (keys : List String) : Option (Outline × Spot) := do
  let (outline, owner) ← descend false outline [] keys.dropLast
  let key ← keys.getLast?
  let here := owner ++ [(key, 0)]
  match outline.at? here with
  | none => some (outline.put here (.series 1), owner ++ [(key, 1)])
  | some (.series count) =>
    some (outline.put here (.series (count + 1)), owner ++ [(key, count + 1)])
  | _ => none

/-- The values of the outermost keys; a table is a value that no setting takes. -/
def toLayer (outline : Outline) : Layer :=
  Table.ofList (outline.filterMap fun (spot, content) =>
    match spot, content with
    | [(key, _)], .value scalar => some (key, scalar)
    | [(key, _)], _ => some (key, .other)
    | _, _ => none)

end Outline

end Fleet.Config
