import ShapeSearch.Matching
import ShapeSearch.Quantity
import ShapeSearch.Scoring

/-!
# Choosing an export

`validate` checks one export against a signature and gives points for what agrees.  `resolve` chooses
among the exports of a file the one with the most points, the first of equals.
-/

namespace ShapeSearch.Resolution

open Matching

/-- Points with their breakdown, in which weights keep their written form. -/
structure Points where
  total : Number
  breakdown : Fields Quantity

structure Resolved where
  entry : ExportEntry
  points : Points

def Points.of (b : Fields Json) : Except Misfit Points := do
  .ok ⟨← Weights.total b, (Quantity.tableOf? b).getD []⟩

/-- What a signature may ask of an export: whether it does, whether the export has it, and the points for
it. -/
structure Part where
  asked : Bool
  fits : Except Misfit Bool
  name : String
  points : Except Misfit Json

/-- Count parts one after the other, up to the first that does not fit. -/
def count : List Part → Except Misfit (Option (Fields Json))
  | [] => .ok (some [])
  | p :: r =>
    if p.asked then do
      if ← p.fits then
        let v ← p.points
        .ok ((← count r).map ((p.name, v) :: ·))
      else .ok none
    else count r

/-- The most points of a name, after the most so far. -/
def bestName (s : Settings) (sig : Signature) (best : Option Number) :
    List String → Except Misfit (Option Number)
  | [] => .ok best
  | n :: r => do
    let points ← Scoring.namedPoints s (some n) sig
    bestName s sig (some (best.elim points (·.maxFirst points))) r

def parts (s : Settings) (ws : Fields Json) (e : ExportEntry) (sig : Signature) : List Part :=
  [⟨sig.type.isSome, .ok (typeFits e sig), "typeMatch", .ok (Weights.given ws "typeMatch")⟩,
   ⟨sig.name.isSome || sig.exports.isSome, (searchNames true e sig).map fun _ => nameFits e sig,
    "targetName", do .ok (.num ((← bestName s sig none e.names).getD (.float 0.0)))⟩,
   ⟨!sig.methods.isEmpty, .ok (methodsFit e sig), "methodPresence",
    do .ok (.num (← Scoring.confirmedPoints s sig.methods))⟩,
   ⟨!sig.properties.isEmpty, .ok (propertiesFit e sig), "propertyPresence",
    Weights.times (Weights.given ws "propertyPresence") sig.properties.length⟩,
   ⟨sig.base.isSome, .ok (baseFits e sig), "extendsMatch", .ok (Weights.given ws "extendsMatch")⟩,
   ⟨sig.instanceOf.isSome, .ok (instanceFits e sig), "instanceofMatch",
    .ok (Weights.given ws "instanceofMatch")⟩]

/-- The weights of an export by what agrees; nothing if it does not agree with the signature. -/
def agreement (s : Settings) (ws : Fields Json) (e : ExportEntry) (sig : Signature) :
    Except Misfit (Option (Fields Json)) :=
  count (parts s ws e sig)

def validate (s : Settings) (e : ExportEntry) (sig : Signature) : Except Misfit (Option Points) := do
  match ← agreement s (← s.weights "target") e sig with
  | none => .ok none
  | some b => .ok (some (← Points.of b))

def accessWeight (ws : Fields Json) (e : ExportEntry) (sig : Signature) : Fields Json :=
  if e.access.type == .named && sig.exports.isSome && e.access.name == sig.exports then
    [("namedExport", Weights.given ws "namedExport")]
  else if e.access.type == .direct then [("directExport", Weights.given ws "directExport")]
  else []

def attempt (s : Settings) (e : ExportEntry) (sig : Signature) :
    Except Misfit (Option Resolved) := do
  if ← checkShape e sig then
    let ws ← s.weights "target"
    match ← agreement s ws e sig with
    | none => .ok none
    | some b => .ok (some ⟨e, ← Points.of (b ++ accessWeight ws e sig)⟩)
  else .ok none

def better (best : Option Resolved) (r : Resolved) : Option Resolved :=
  match best with
  | none => some r
  | some b => if b.points.total.lt r.points.total then some r else some b

/-- The best choice among exports, after the best so far. -/
def resolveFrom (s : Settings) (sig : Signature) :
    List ExportEntry → Option Resolved → Except Misfit (Option Resolved)
  | [], best => .ok best
  | e :: r, best => do
    match ← attempt s e sig with
    | none => resolveFrom s sig r best
    | some x => resolveFrom s sig r (better best x)

def resolve (s : Settings) (exports : ExportMetadata) (sig : Signature) :
    Except Misfit (Option Resolved) := do
  let _ ← s.weights "target"
  resolveFrom s sig exports none

end ShapeSearch.Resolution
