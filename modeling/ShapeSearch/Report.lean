import ShapeSearch.Discovery.Result

/-!
# Reports

Results, candidates and errors as text for a console, or as structured text.
-/

namespace ShapeSearch.Report

def columnsOf (env : Fields String) : Nat :=
  match (env.get? "COLUMNS").bind Text.readInt? with
  | some n => if 0 < n then n.toNat else 80
  | none => 80

def rule (columns : Nat) : String :=
  String.ofList (List.replicate (min columns 78) '─')

def partText (p : String × Number) : Except Misfit String := do
  .ok (p.1 ++ "(" ++ (← Decimal.generalSigned p.2) ++ ")")

def breakdownText (b : Fields Number) : Except Misfit String := do
  match ← (b.filter fun p => p.2.isNonzero).mapM partText with
  | [] => .ok "(none)"
  | ps => .ok (" ".intercalate ps)

def accessText (a : ExportAccess) : String :=
  match a.name with
  | some n => if n = "" then a.type.text else a.type.text ++ " '" ++ n ++ "'"
  | none => a.type.text

def framed (columns : Nat) (header : String) (body : List String) : String :=
  let thin := rule columns
  "\n".intercalate (["\n" ++ thin, header, thin] ++ body ++ ["\n" ++ thin])

def kindLine (kind : Option String) : List String :=
  match kind with
  | some k => if k = "" then [] else ["    Kind   : " ++ k]
  | none => []

def result (columns : Nat) (r : SearchResult) (elapsed : Option Number) : Except Misfit String := do
  let took ← match elapsed with
    | some t => do .ok (" in " ++ (← Decimal.places 4 t) ++ " seconds")
    | none => .ok ""
  let score := "    Score  : " ++ (← Decimal.places 1 r.score.value) ++
    (if r.fromCache then "  (cached)" else "")
  let explain ←
    if r.breakdown.isEmpty then .ok []
    else do .ok ["    Explain: " ++ (← breakdownText (r.breakdown.map fun p => (p.1, p.2.value)))]
  .ok <| framed columns ("  SIGFIND — resolved" ++ took)
    (["", "    File   : " ++ r.path] ++ kindLine r.kind ++
      ["    Access : " ++ accessText r.access, score] ++ explain)

def flags (c : Candidate) : List String :=
  (if c.safe then [] else ["UNSAFE"]) ++
    (if c.quickNameMatched then [] else ["loose name"]) ++
    (if c.metadata.isNone then ["no metadata"] else [])

def candidateLines (number : Nat) (c : Candidate) : Except Misfit (List String) := do
  let suffix := match flags c with
    | [] => ""
    | fs => "  [" ++ ", ".intercalate fs ++ "]"
  let score ← Decimal.places 1 c.score
  let explain ← breakdownText c.breakdown
  .ok (["", "  #" ++ Decimal.natText number ++ "  " ++ c.relativePath ++ suffix,
    "    Score  : " ++ score, "    Explain: " ++ explain] ++
    (if c.aliases.isEmpty then [] else ["    Aliases: " ++ ", ".intercalate c.aliases]))

def allLines (number : Nat) : List Candidate → Except Misfit (List String)
  | [] => .ok []
  | c :: r => do
    let first ← candidateLines number c
    let rest ← allLines (number + 1) r
    .ok (first ++ rest)

def candidates (columns : Nat) (cs : List Candidate) : Except Misfit String := do
  if cs.isEmpty then .ok "\n  No candidates found.\n"
  else
    .ok (framed columns
      ("  SIGFIND — " ++ Decimal.natText cs.length ++
        (if cs.length = 1 then " candidate" else " candidates"))
      (← allLines 1 cs))

def missLines (number : Nat) : List NearMiss → Except Misfit (List String)
  | [] => .ok []
  | m :: r => do
    let score ← Decimal.places 1 m.score
    let rest ← missLines (number + 1) r
    .ok (("      #" ++ Decimal.natText number ++ " " ++ m.path ++ "  (score " ++ score ++ ")") ::
      ("         " ++ m.reason) :: rest)

def notFound (columns : Nat) (e : NotFound) : Except Misfit String := do
  let misses ←
    if e.nearMisses.isEmpty then
      .ok ["    No candidate survived the name, size, score and safety filters."]
    else do .ok (["", "    Near misses:"] ++ (← missLines 1 e.nearMisses))
  let suggestion := match e.suggested with
    | some s => if s.isTruthy then ["", "    Try: " ++ s.write .line] else []
    | none => []
  .ok <| framed columns "  SIGFIND — no target resolved"
    (["", "    Signature: " ++ e.signature.write .line] ++ misses ++ suggestion)

def structured (v : Json) (indent : Option Nat) : String :=
  match indent with
  | some n => v.write (.indented n)
  | none => v.write .line

end ShapeSearch.Report
