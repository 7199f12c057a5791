import ShapeSearch.Export

/-!
# Candidates

A candidate is a file that may hold the entity asked for: where it is, what it says, what it exports,
and the score it has been given.
-/

namespace ShapeSearch

structure Candidate where
  path : String
  fileName : String
  relativePath : String
  content : String := ""
  mtimeMs : Option Number := none
  quickNameMatched : Bool := true
  metadata : Option ExportMetadata := none
  score : Number := .float 0.0
  breakdown : Fields Number := []
  aliases : List String := []
  baseImport : Option String := none
  safe : Bool := true

namespace Candidate

def breakdownJson (b : Fields Number) : Json :=
  .obj (b.map fun p => (p.1, .num p.2))

def toJson (c : Candidate) : Json :=
  .obj ([
    ("path", .str c.path),
    ("relative_path", .str c.relativePath),
    ("score", .num c.score),
    ("score_breakdown", breakdownJson c.breakdown),
    ("quick_name_matched", .bool c.quickNameMatched),
    ("safe", .bool c.safe),
    ("exports", match c.metadata with
      | some m => .arr (m.map ExportEntry.toJson)
      | none => .null)] ++
    (if c.aliases.isEmpty then [] else [("aliases", .ofTexts c.aliases)]) ++
    (match c.baseImport with
      | some b => if b = "" then [] else [("base_import", .str b)]
      | none => []))

def exports (c : Candidate) : ExportMetadata :=
  c.metadata.getD []

end Candidate

end ShapeSearch
