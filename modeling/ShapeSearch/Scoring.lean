import ShapeSearch.Scoring.Factors

/-!
# Scores

A score is a breakdown by factors, and its total is the sum of the breakdown.  Scorers
of the caller add up to one more factor.
-/

namespace ShapeSearch

/-- A rule of the caller: points for a candidate, a signature and a text; no points if it fails. -/
structure Scorer where
  id : String
  points : Candidate → Signature → String → Option Json

inductive Factor where
  | path
  | extension
  | fileName
  | typeHints
  | methods
  | exports
  | names
  | custom
deriving DecidableEq

def Factor.key : Factor → String
  | .path => "path"
  | .extension => "extension"
  | .fileName => "fileName"
  | .typeHints => "typeHints"
  | .methods => "methods"
  | .exports => "exports"
  | .names => "names"
  | .custom => "custom"

def Factor.all : List Factor :=
  [.path, .extension, .fileName, .typeHints, .methods, .exports, .names, .custom]

structure Score where
  total : Number
  breakdown : Fields Number

structure Scoring where
  settings : Settings := {}
  factors : List Factor := Factor.all
  scorers : List Scorer := []

namespace Scoring

def sumOf (b : Fields Number) : Except Misfit Number :=
  Number.sum (b.map (·.2))

def addRules (c : Candidate) (sig : Signature) (content : String) :
    Number → List Scorer → Except Misfit Number
  | total, [] => .ok total
  | total, r :: rest => do
    match r.points c sig content with
    | some v => addRules c sig content (← total.add (Weights.orZero (some v))) rest
    | none => addRules c sig content total rest

def customPoints (sc : Scoring) (c : Candidate) (sig : Signature) (content : String) :
    Except Misfit Number := do
  match sc.settings.scoring with
  | .obj fs =>
    -- values in the settings are no rules, but they have to be listable
    let _ ← Json.iterateOr (Fields.get? fs "custom")
    addRules c sig content (.float 0.0) sc.scorers
  | _ => .error .notATable

def points (sc : Scoring) (f : Factor) (c : Candidate) (sig : Signature) (content : String) :
    Except Misfit Number :=
  match f with
  | .path => pathPoints sc.settings c
  | .extension => extensionPoints sc.settings c
  | .fileName => fileNamePoints sc.settings c sig
  | .typeHints => typeHintPoints sc.settings sig content
  | .methods => methodPoints sc.settings sig content
  | .exports => exportPoints sc.settings sig content
  | .names => namePoints sc.settings sig content
  | .custom => sc.customPoints c sig content

def breakdownFrom (sc : Scoring) (c : Candidate) (sig : Signature) (content : String) :
    List Factor → Fields Number → Except Misfit (Fields Number)
  | [], out => .ok out
  | f :: r, out => do
    let n ← sc.points f c sig content
    let sum ← ((out.get? f.key).getD (.int 0)).add n
    breakdownFrom sc c sig content r (out.put f.key sum)

def score (sc : Scoring) (c : Candidate) (sig : Signature) (content : String) :
    Except Misfit Score := do
  let b ← sc.breakdownFrom c sig content sc.factors []
  .ok ⟨← sumOf b, b⟩

def withCustom (sc : Scoring) : Scoring :=
  if sc.factors.contains .custom then sc else { sc with factors := sc.factors ++ [.custom] }

def register (sc : Scoring) (r : Scorer) : Scoring :=
  let sc := sc.withCustom
  { sc with scorers := sc.scorers ++ [r] }

def unregister (sc : Scoring) (id : String) : Scoring :=
  let sc := sc.withCustom
  { sc with scorers := sc.scorers.eraseP (·.id == id) }

/-! ## Points of a resolved export -/

def namedPoints (s : Settings) (name : Option String) (sig : Signature) : Except Misfit Number :=
  match name with
  | none => .ok (.float 0.0)
  | some n =>
    if n = "" then .ok (.float 0.0)
    else
      match sig.pattern? with
      | some p =>
        do
          if ← p.matchesIn n then .ok (Weights.orZero ((← s.weights "fileName").get? "regexMatch"))
          else .ok (.float 0.0)
      | none =>
        match sig.targetName with
        | none => .ok (.float 0.0)
        | some e =>
          if n = e then do .ok (Weights.orZero ((← s.weights "target").get? "exactName"))
          else if Text.lower n = Text.lower e then do
            .ok (Weights.orZero ((← s.weights "fileName").get? "caseInsensitive"))
          else .ok (.float 0.0)

def confirmedPoints (s : Settings) (methods : List String) : Except Misfit Number := do
  (Weights.orZero ((← s.weights "target").get? "methodPresence")).mul (.int methods.length)

end Scoring

end ShapeSearch
