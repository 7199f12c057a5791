import ShapeSearch.Export
import ShapeSearch.Quantity
import ShapeSearch.World

/-!
# Stored results

An entry remembers which file answered a signature, and what the file looked like then: when it was last
changed, and until when the answer holds.  `ofJson` reads an entry from an untrusted value and gives
nothing if it cannot be one.
-/

namespace ShapeSearch

structure CacheEntry where
  path : String
  access : ExportAccess
  score : Quantity
  mtimeMs : Quantity
  /-- in milliseconds; nothing never expires -/
  expiresAt : Option Quantity := none
  kind : Option String := none
  exportName : Option String := none
  breakdown : Fields Quantity := []

namespace CacheEntry

def textField (k : String) : Option String → Fields Json
  | some s => [(k, .str s)]
  | none => []

def toJson (e : CacheEntry) : Json :=
  .obj ([
    ("path", .str e.path),
    ("access", e.access.toJson),
    ("score", e.score.toJson),
    ("mtimeMs", e.mtimeMs.toJson),
    ("expiresAt", (e.expiresAt.map Quantity.toJson).getD .null)] ++
    textField "kind" e.kind ++ textField "exportName" e.exportName ++
    if e.breakdown.isEmpty then []
    else [("breakdown", Quantity.tableJson e.breakdown)])

def readBreakdown : Option Json → Fields Quantity
  | some (.obj fs) => (Quantity.tableOf? fs).getD []
  | _ => []

/-- The time of expiry: nothing, or a quantity; anything else is none. -/
def readExpiry : Option Json → Option (Option Quantity)
  | none => some none
  | some .null => some none
  | some v => (Quantity.ofJson? v).map some

def required? (fs : Fields Json) :
    Option (String × Quantity × Quantity × Option Quantity) := do
  let path ← (fs.get? "path").bind Json.text?
  let mtime ← (fs.get? "mtimeMs").bind Quantity.ofJson?
  let score ← (fs.get? "score").bind Quantity.ofJson?
  let expires ← readExpiry (fs.get? "expiresAt")
  some (path, score, mtime, expires)

def ofJson : Json → Except Misfit (Option CacheEntry)
  | .obj fs =>
    match required? fs with
    | none => .ok none
    | some (path, score, mtimeMs, expiresAt) => do
      let access ← ExportAccess.ofJson (Fields.get? fs "access")
      .ok (some {
        path, access, score, mtimeMs, expiresAt
        kind := (Fields.get? fs "kind").bind Json.text?
        exportName := (Fields.get? fs "exportName").bind Json.text?
        breakdown := readBreakdown (Fields.get? fs "breakdown") })
  | _ => .ok none

/-- The time at which an answer given at `now` expires. -/
def expiry (lifetime : Json) (now : Number) : Except Misfit (Option Quantity) :=
  if lifetime.isTruthy then
    match lifetime.numeric? with
    | some t =>
      if (Number.int 0).lt t then do .ok (some (.number (← now.add (← t.mul (.int 1000)))))
      else .ok none
    | none => .error .wrongKind
  else .ok none

/-- Whether an entry still holds at a time: it has not expired, and its file has not been changed. -/
def isValid (e : CacheEntry) (w : World) (now : Number) : Except Misfit Bool :=
  if e.expiresAt.any fun t => t.value.le now then .ok false
  else do
    match ← w.mtimeMs? e.path with
    | some t => .ok (t.eq e.mtimeMs.value)
    | none => .ok false

end CacheEntry

end ShapeSearch
