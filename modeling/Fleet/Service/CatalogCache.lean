import Fleet.Activity.Basic
import Fleet.Template.Catalog

/-!
# The catalog cache

A cache keeps the catalog that was loaded last, for a limited time from the end of its load. A call
is answered from the cache while the snapshot is fresh and otherwise loads anew; a load that fails
leaves the snapshot as it was. The slot serves one caller at a time in the order of their arrival,
so calls made at once are calls in turn.
-/

namespace Fleet

/-- A catalog with the instant at which it was loaded. -/
structure Snapshot where
  loadedAt : Nat
  catalog : Catalog
  deriving DecidableEq

/-- Whether less than a lifetime has passed since the snapshot was loaded. -/
def Snapshot.isFresh (snapshot : Snapshot) (lifetime now : Nat) : Bool :=
  now - snapshot.loadedAt < lifetime

/-- A place for a snapshot in the state of the world, and how long a snapshot is served. -/
structure CatalogCache (σ : Type) where
  lifetime : Nat
  slot : Part σ (Option Snapshot)

namespace CatalogCache

variable {σ ε α : Type}

/-- The catalog in the slot, while it is fresh. -/
def serve (lifetime now : Nat) (slot : Option Snapshot) : Option Catalog :=
  (slot.filter fun snapshot => snapshot.isFresh lifetime now).map Snapshot.catalog

/-- The catalog in the slot while it is fresh, or else a new one. -/
def getOrLoad (cache : CatalogCache σ) (load : Activity σ (Except ε Catalog)) :
    Activity σ (Except ε Catalog) := do
  match ← Activity.observe fun now state => serve cache.lifetime now (cache.slot.view state) with
  | some catalog => pure (.ok catalog)
  | none =>
    match ← load with
    | .error failure => pure (.error failure)
    | .ok catalog =>
      Activity.perform fun now state =>
        (.ok catalog, cache.slot.update (some { loadedAt := now, catalog := catalog }) state)

/-- Empty the slot. -/
def invalidate (cache : CatalogCache σ) : Activity σ Unit :=
  Activity.modify (cache.slot.update none)

/-- Calls that arrive at once, in the order in which the slot serves them. -/
def inTurn : List (Activity σ α) → Activity σ (List α)
  | [] => pure []
  | call :: calls => do
    let result ← call
    let results ← inTurn calls
    pure (result :: results)

@[simp]
theorem serve_none (lifetime now : Nat) : serve lifetime now none = none := rfl

/-- A snapshot without lifetime is never served. -/
@[simp]
theorem serve_zero
    (now : Nat)
    (slot : Option Snapshot) :
    serve 0 now slot = none := by
  cases slot <;> simp [serve, Snapshot.isFresh, Option.filter]

end CatalogCache

end Fleet
