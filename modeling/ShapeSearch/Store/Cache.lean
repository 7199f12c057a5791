import ShapeSearch.Json.Reader
import ShapeSearch.Store.Entry
import ShapeSearch.Store.Lru

/-!
# Stored results in memory and in a file

The memory tier holds the results used last; the file holds all of them and is shared.  The file is read
when it is first needed.  `save` reads it again and applies what this store has put and removed since,
so nothing that another store has written is lost.

A step that runs into a misfit keeps what it has done before.
-/

namespace ShapeSearch

structure Cache where
  file : Option String
  lifetime : Json
  enabled : Bool
  memory : Lru CacheEntry
  persisted : Fields CacheEntry := []
  /-- keys put since the last save -/
  dirty : List String := []
  /-- keys removed since the last save -/
  removed : List String := []
  loaded : Bool := false

namespace Cache

/-- An empty store.  Its file need not exist, but its path has to be one that can be followed. -/
def make (w : World) (file : Option String) (lifetime : Json) (enabled : Bool) (memorySize : Json) :
    Except Misfit Cache := do
  let capacity ← Lru.capacityOf memorySize
  let _ ← file.mapM w.realParts
  .ok { file, lifetime, enabled := enabled && file.isSome, memory := { capacity } }

def readEntries : List (String × Json) → Except Misfit (Fields CacheEntry)
  | [] => .ok []
  | (k, v) :: r => do
    let e ← CacheEntry.ofJson v
    let rest ← readEntries r
    .ok ((e.map (k, ·)).toList ++ rest)

def entriesOf (text : String) (limits : Json.Limits := .usual) : Except Misfit (Fields CacheEntry) := do
  match ← Json.parse text.toList limits with
  | some (.obj fs) => readEntries fs
  | _ => .ok []

def load (c : Cache) (w : World) (limits : Json.Limits := .usual) : Except Misfit (Fields CacheEntry) :=
  match c.file with
  | none => .ok []
  | some f => do
    match ← w.probe f with
    | some (.file x) => entriesOf (x.lines.getD "") limits
    | _ => .ok []

def install (c : Cache) (entries : Fields CacheEntry) : Cache :=
  if c.loaded then c else { c with persisted := entries, loaded := true }

def ensureLoaded (c : Cache) (w : World) (limits : Json.Limits := .usual) : Except Misfit Cache := do
  if c.loaded then .ok c else .ok (c.install (← c.load w limits))

def fileText (entries : Fields CacheEntry) : Except Misfit String :=
  (Json.obj (entries.map fun p => (p.1, p.2.toJson))).sorted.writeChecked (.indented 2)

def merged (c : Cache) (stored : Fields CacheEntry) : Fields CacheEntry :=
  c.dirty.foldl (fun out k =>
    match c.persisted.get? k with
    | some e => out.put k e
    | none => out) (stored.filter fun p => !c.removed.contains p.1)

/-- Write entries to a file.  A file that cannot be written stays as it is; the directories before it are
made first. -/
def writeEntries (w : World) (f : String) (entries : Fields CacheEntry) : Except Misfit Unit × World :=
  match w.makeParents f with
  | (false, w) => (.ok (), w)
  | (true, w) =>
    match fileText entries with
    | .ok text => (.ok (), w.placeText f text)
    | .error m => (.error m, w)

def save (c : Cache) (w : World) : Except Misfit Unit × Cache × World :=
  if c.enabled then
    match c.load w with
    | .error m => (.error m, c, w)
    | .ok stored =>
      let entries := c.merged stored
      let c := { c with persisted := entries, dirty := [], removed := [] }
      match c.file with
      | some f =>
        let (r, w) := writeEntries w f entries
        (r, c, w)
      | none => (.ok (), c, w)
  else (.ok (), c, w)

/-- The entry for a key from the file, if it still holds; it is kept in memory. -/
def getPersisted (c : Cache) (w : World) (key : String) (limits : Json.Limits := .usual) :
    Except Misfit (Option CacheEntry) × Cache :=
  if c.enabled then
    match c.ensureLoaded w limits with
    | .error m => (.error m, c)
    | .ok c =>
      match c.persisted.get? key with
      | none => (.ok none, c)
      | some e =>
        match e.isValid w w.nowMs with
        | .error m => (.error m, c)
        | .ok true => (.ok (some e), { c with memory := c.memory.put key e })
        | .ok false => (.ok none, c)
  else (.ok none, c)

def get (c : Cache) (w : World) (key : String) (limits : Json.Limits := .usual) :
    Except Misfit (Option CacheEntry) × Cache :=
  match c.memory.get key with
  | (none, _) => c.getPersisted w key limits
  | (some e, memory) =>
    let c := { c with memory }
    match e.isValid w w.nowMs with
    | .error m => (.error m, c)
    | .ok true => (.ok (some e), c)
    | .ok false => getPersisted { c with memory := (c.memory.pop key).2 } w key limits

def addKey (k : String) (ks : List String) : List String :=
  if ks.contains k then ks else ks ++ [k]

def dropKey (k : String) (ks : List String) : List String :=
  ks.filter (· != k)

def markPut (c : Cache) (key : String) (e : CacheEntry) : Cache :=
  { c with
    persisted := c.persisted.put key e
    dirty := addKey key c.dirty
    removed := dropKey key c.removed }

def markRemoved (c : Cache) (key : String) : Cache :=
  { c with
    persisted := c.persisted.erase key
    dirty := dropKey key c.dirty
    removed := addKey key c.removed }

def put (c : Cache) (w : World) (key : String) (e : CacheEntry) :
    Except Misfit Unit × Cache × World :=
  let c := { c with memory := c.memory.put key e }
  if c.enabled then
    match c.ensureLoaded w with
    | .error m => (.error m, c, w)
    | .ok c => (c.markPut key e).save w
  else (.ok (), c, w)

def invalidate (c : Cache) (w : World) (key : String) : Except Misfit Unit × Cache × World :=
  let c := { c with memory := (c.memory.pop key).2 }
  if c.enabled then
    match c.ensureLoaded w with
    | .error m => (.error m, c, w)
    | .ok c => (c.markRemoved key).save w
  else (.ok (), c, w)

def clear (c : Cache) (w : World) : Cache × World :=
  ({ c with memory := c.memory.clear, persisted := [], dirty := [], removed := [], loaded := true },
    match c.file with
    | some f => w.unlink f
    | none => w)

def iterate (c : Cache) (w : World) : Except Misfit (List String) × Cache :=
  match c.ensureLoaded w with
  | .error m => (.error m, c)
  | .ok c => (.ok c.persisted.keys, c)

/-- An entry for a file, whose expiry follows the lifetime of the store. -/
def entryFor (c : Cache) (path : String) (access : ExportAccess) (score mtimeMs : Number)
    (now : Number) (kind exportName : Option String) (breakdown : Fields Quantity) :
    Except Misfit CacheEntry := do
  .ok {
    path, access
    score := .number score
    mtimeMs := .number mtimeMs
    expiresAt := ← CacheEntry.expiry c.lifetime now
    kind, exportName, breakdown }

end Cache

end ShapeSearch
