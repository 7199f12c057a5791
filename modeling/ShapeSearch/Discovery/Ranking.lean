import ShapeSearch.Discovery.Result
import ShapeSearch.Resolution

/-!
# Ranking and choosing candidates

Candidates are ranked by score, the highest first, and then by path.  They are tried in that order;
among candidates of equal score the one whose export is worth most wins, the first of equals.
-/

namespace ShapeSearch.Ranking

def precedes (a b : Candidate) : Bool :=
  b.score.lt a.score || (a.score.eq b.score && decide (a.path ≤ b.path))

def rank (cs : List Candidate) : List Candidate :=
  cs.mergeSort precedes

structure Choice where
  candidate : Candidate
  resolved : Resolution.Resolved

def reasonFor (exports : ExportMetadata) (sig : Signature) : String :=
  (exports.findSome? fun e => Matching.nonEmpty (Matching.mismatch e sig)).getD
    "no export matches the signature"

/-- The export chosen from a candidate, or why none was. -/
def attempt (s : Settings) (sig : Signature) (c : Candidate) :
    Except String Resolution.Resolved :=
  if c.exports.isEmpty then
    .error ("could not be loaded (" ++ (LoadError.noMetadata c.path).message ++ ")")
  else
    match Resolution.resolve s c.exports sig with
    | .error m => .error ("validation failed (" ++ m.message ++ ")")
    | .ok none => .error (reasonFor c.exports sig)
    | .ok (some r) => .ok r

def better (best : Option Choice) (c : Choice) : Option Choice :=
  match best with
  | none => some c
  | some b => if b.resolved.points.total.lt c.resolved.points.total then some c else some b

/-- Try candidates one after the other: the best choice, and why others failed, by path. -/
def tryAll (s : Settings) (sig : Signature) :
    List Candidate → Option Choice → Fields String → Option Choice × Fields String
  | [], best, reasons => (best, reasons)
  | c :: r, best, reasons =>
    match attempt s sig c with
    | .ok x => tryAll s sig r (better best ⟨c, x⟩) reasons
    | .error why => tryAll s sig r best (reasons.put c.path why)

/-- Try groups of candidates of equal score, up to the first with a choice.  Every group has at least
one candidate, so their number bounds the number of groups. -/
def tryGroups (s : Settings) (sig : Signature) :
    Nat → List Candidate → Fields String → Option Choice × Fields String
  | 0, _, reasons => (none, reasons)
  | _, [], reasons => (none, reasons)
  | n + 1, c :: r, reasons =>
    let group := c :: r.takeWhile fun d => d.score.eq c.score
    match tryAll s sig group none reasons with
    | (some choice, reasons) => (some choice, reasons)
    | (none, reasons) => tryGroups s sig n (r.dropWhile fun d => d.score.eq c.score) reasons

def choose (s : Settings) (sig : Signature) (ranked : List Candidate) :
    Option Choice × Fields String :=
  tryGroups s sig ranked.length ranked []

/-- The result for a choice; its breakdown has the points of the candidate and those of the export. -/
def resultOf (choice : Choice) (sig : Signature) : Except Misfit SearchResult := do
  let e := choice.resolved.entry
  let ranked : Fields Quantity := choice.candidate.breakdown.map fun p => (p.1, .number p.2)
  let breakdown := choice.resolved.points.breakdown.foldl
    (fun out p => Fields.put out ("target." ++ p.1) p.2) ranked
  .ok {
    path := choice.candidate.path
    relativePath := choice.candidate.relativePath
    access := e.access
    score := .number (← Quantity.sumOf breakdown)
    breakdown
    exportName := (Matching.nonEmpty e.exportedName).orElse fun _ => e.info.name
    kind := some e.info.kind
    signature := sig.toJson }

end ShapeSearch.Ranking
