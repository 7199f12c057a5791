import ShapeSearch.Candidate
import ShapeSearch.Signature
import ShapeSearch.Store.Entry

/-!
# Outcomes of a search

A search ends with a result, or with an error that shows the candidates that came closest and suggests a
signature that one of them would meet.
-/

namespace ShapeSearch

structure SearchResult where
  path : String
  relativePath : String
  access : ExportAccess
  score : Quantity
  breakdown : Fields Quantity := []
  exportName : Option String := none
  kind : Option String := none
  fromCache : Bool := false
  signature : Json := .null

structure NearMiss where
  path : String
  score : Number
  breakdown : Fields Number
  reason : String

structure NotFound where
  message : String
  signature : Json
  nearMisses : List NearMiss := []
  suggested : Option Json := none

inductive Failure where
  | signature (e : SignatureError)
  | settings (e : SettingsError)
  | load (e : LoadError)
  | notFound (e : NotFound)
  | misfit (m : Misfit)

def Failure.ofSignature : Fault SignatureError → Failure
  | .refused e => .signature e
  | .misfit m => .misfit m

def Failure.ofSettings : Fault SettingsError → Failure
  | .refused e => .settings e
  | .misfit m => .misfit m

def SearchResult.toJson (r : SearchResult) : Json :=
  .obj [
    ("path", .str r.path),
    ("relative_path", .str r.relativePath),
    ("access", r.access.toJson),
    ("score", r.score.toJson),
    ("score_breakdown", Quantity.tableJson r.breakdown),
    ("export_name", .ofText? r.exportName),
    ("kind", .ofText? r.kind),
    ("from_cache", .bool r.fromCache),
    ("signature", r.signature)]

def NearMiss.toJson (m : NearMiss) : Json :=
  .obj [
    ("path", .str m.path),
    ("score", .num m.score),
    ("score_breakdown", Candidate.breakdownJson m.breakdown),
    ("reason", .str m.reason)]

/-- The written form of an error: the first line of its message, and all it carries. -/
def NotFound.toJson (e : NotFound) : Json :=
  .obj [
    ("error", .str (if e.message = "" then "discovery failed" else (Text.lines e.message).headD "")),
    ("signature", e.signature),
    ("near_misses", .arr (e.nearMisses.map NearMiss.toJson)),
    ("suggested_signature", e.suggested.getD .null)]

/-! ## Suggested signatures -/

namespace Suggestion

def textField (k : String) : Option String → Fields Json
  | some s => if s = "" then [] else [(k, .str s)]
  | none => []

def listField (k : String) (n : Nat) (xs : List String) : Fields Json :=
  if xs.isEmpty then [] else [(k, .ofTexts (xs.take n))]

def fieldsOf (e : ExportEntry) : Fields Json :=
  textField "name" e.info.name ++
    textField "type" (if e.info.kind = "unknown" then none else some e.info.kind) ++
    textField "exports" (if e.access.type = .named then e.access.name else none) ++
    listField "methods" 5 e.info.methods ++
    listField "properties" 3 e.info.properties ++
    textField "extends" e.info.base

/-- The signature that describes the main export among some; nothing if there is nothing to say. -/
def ofExports (m : Option ExportMetadata) : Option Json :=
  match m.bind ExportMetadata.primary with
  | none => none
  | some e =>
    match fieldsOf e with
    | [] => none
    | fs => some (.obj fs)

end Suggestion

end ShapeSearch
