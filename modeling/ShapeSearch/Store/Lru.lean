import ShapeSearch.Quantity

/-!
# Stores of bounded size

A store keeps the values used last.  Its entries stand in order of use, the oldest first: `put` and a
successful `get` move an entry to the end, and `put` drops the oldest ones beyond the capacity.

A registry of loaded modules is bounded too: it remembers under which name the file at a path was loaded, and
the module that was added longest ago is forgotten first.  Its name then leaves the table of live modules.
-/

namespace ShapeSearch

structure Lru (α : Type) where
  capacity : Nat
  entries : Fields α := []

namespace Lru

variable {α : Type}

def capacityOf (v : Json) : Except Misfit Nat := do
  .ok (max 1 (← v.wholePart)).toNat

def has (c : Lru α) (k : String) : Bool :=
  c.entries.has k

def keys (c : Lru α) : List String :=
  c.entries.keys

def get (c : Lru α) (k : String) : Option α × Lru α :=
  match c.entries.get? k with
  | some v => (some v, { c with entries := c.entries.erase k ++ [(k, v)] })
  | none => (none, c)

/-- Put a value under a name and drop the oldest entries beyond the capacity. -/
def put (c : Lru α) (k : String) (v : α) : Lru α :=
  let entries := c.entries.erase k ++ [(k, v)]
  { c with entries := entries.drop (entries.length - c.capacity) }

def pop (c : Lru α) (k : String) : Option α × Lru α :=
  (c.entries.get? k, { c with entries := c.entries.erase k })

def clear (c : Lru α) : Lru α :=
  { c with entries := [] }

end Lru

/-! ## Loaded modules -/

/-- The names of loaded files by path, the one added longest ago first. -/
structure Modules where
  capacity : Nat
  entries : Fields String := []

namespace Modules

def retire (names live : List String) : List String :=
  live.filter fun n => !names.contains n

/-- Add a file under a name.  A path that is known keeps its name and counts as added last.  Gives back
the table of live modules without those that were forgotten. -/
def add (m : Modules) (path name : String) (live : List String) : Modules × List String :=
  match m.entries.get? path with
  | some old => ({ m with entries := m.entries.erase path ++ [(path, old)] }, live)
  | none =>
    let entries := m.entries ++ [(path, name)]
    let surplus := entries.length - m.capacity
    ({ m with entries := entries.drop surplus }, retire ((entries.take surplus).map (·.2)) live)

def get? (m : Modules) (path : String) : Option String :=
  m.entries.get? path

def clear (m : Modules) (live : List String) : Modules × List String :=
  ({ m with entries := [] }, retire (m.entries.map (·.2)) live)

end Modules

end ShapeSearch
