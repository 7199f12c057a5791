import ShapeSearch.Aliases
import ShapeSearch.Candidate.Standing
import ShapeSearch.Extraction
import ShapeSearch.Feedback
import ShapeSearch.Scoring

/-!
# Evaluating one file

A file becomes a candidate in steps: its name is looked at, then its size, then its text is read, its
exports are extracted, and it is scored.  A file that cannot be read, or whose score is too low, is no
candidate; a file whose exports cannot be extracted is one without exports.
-/

namespace ShapeSearch

structure Evaluator where
  /-- the root after following links -/
  root : String
  scoring : Scoring
  /-- extractors by extension; nothing if no exports are to be read -/
  extractors : Option (Fields Extractor) := some []
  aliases : Option Aliases := none
  feedback : Option Feedback := none

namespace Evaluator

def settings (ev : Evaluator) : Settings := ev.scoring.settings

def exportsOf (ev : Evaluator) (w : World) (path content : String) : Option ExportMetadata :=
  ev.extractors.bind fun overrides =>
    match Extractor.forPath ev.settings overrides path with
    | .ok (some e) => (e.extract w content (Path.baseName path)).toOption
    | _ => none

def feedbackPoints (ev : Evaluator) (sig : Signature) (path : String) : Except Misfit Number :=
  match ev.feedback with
  | none => .ok (.float 0.0)
  | some f => do
    if ((← ev.settings.weights "feedback").get? "enabled").any Json.isTruthy then
      f.points ev.settings sig path
    else .ok (.float 0.0)

def quickNamePoints (s : Settings) (matched : Bool) : Except Misfit Number :=
  if matched then .ok (.float 0.0)
  else
    match s.looseNamePenalty.numeric? with
    | some n => .ok n.abs.neg
    | none => .error .wrongKind

/-- The text of a file that is small enough and can be decoded, and when the file was last changed. -/
def readable (ev : Evaluator) (w : World) (path : String) :
    Except Misfit (Option (String × Number)) := do
  match w.stat path with
  | .error .badValue => .error .badValue
  | .error _ => .ok none
  | .ok node =>
    let limit ← ev.settings.maxFileSizeFor (Text.lower (Path.extension (Path.baseName path)))
    match node with
    | .file f =>
      if limit < f.size then .ok none
      else .ok (f.lines.map fun t => (t, f.mtimeMs))
    | _ => .ok none

def scored (ev : Evaluator) (w : World) (c : Candidate) (sig : Signature) :
    Except Misfit Candidate := do
  let s ← ev.scoring.score c sig c.content
  let recency ← Recency.bonus ev.settings c.mtimeMs w.nowMs
  let pattern ← ev.feedbackPoints sig c.path
  let quickName ← quickNamePoints ev.settings c.quickNameMatched
  let breakdown := ((s.breakdown.put "recency" recency).put "pattern" pattern).put "quickName" quickName
  .ok { c with breakdown, score := ← Scoring.sumOf breakdown }

def withAliases (ev : Evaluator) (w : World) (c : Candidate) : Candidate :=
  match ev.aliases with
  | none => c
  | some a =>
    { c with
      aliases := (a.aliasesFor w c.path).toOption.getD []
      baseImport := (a.baseImport w c.path).toOption.getD none }

def isTooLow (s : Settings) (score : Number) : Except Misfit Bool :=
  match s.minCandidateScore.numeric? with
  | some m => .ok (score.le m)
  | none => .error .wrongKind

/-- Leave a file out for its score.  This is put on record with the score and the least one, which have to be
such that can be written. -/
def discard (s : Settings) (score : Number) : Except Misfit (Option Candidate) :=
  if (Json.num score).isWritable && s.minCandidateScore.isWritable then .ok none else .error .badValue

def evaluateText (ev : Evaluator) (w : World) (path : String) (sig : Signature) (matched : Bool)
    (content : String) (mtimeMs : Number) : Except Misfit (Option Candidate) := do
  let metadata := ev.exportsOf w path content
  let relativePath ← w.shownPath ev.root path
  let c ← ev.scored w
    { path, fileName := Path.baseName path, relativePath, content, mtimeMs := some mtimeMs,
      quickNameMatched := matched, metadata } sig
  if ← isTooLow ev.settings c.score then discard ev.settings c.score else .ok (some (ev.withAliases w c))

def evaluate (ev : Evaluator) (w : World) (path : String) (sig : Signature) :
    Except Misfit (Option Candidate) := do
  let matched ← Naming.quickMatch (Path.baseName path) sig
  if !matched && !ev.settings.allowLooseNameMatch.isTruthy then .ok none
  else
    match ← ev.readable w path with
    | none => .ok none
    | some (content, mtimeMs) => ev.evaluateText w path sig matched content mtimeMs

end Evaluator

end ShapeSearch
