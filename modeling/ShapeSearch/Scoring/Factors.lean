import ShapeSearch.Candidate
import ShapeSearch.Naming
import ShapeSearch.Scoring.Weights

/-!
# Scoring factors

A factor gives points to a file for one kind of evidence.  Each reads its own weight table and nothing
that another factor computes:

* `pathPoints`: every known part of the path counts;
* `extensionPoints`, `fileNamePoints`: the best agreement of the file name;
* `typeHintPoints`, `methodPoints`, `exportPoints`, `namePoints`: evidence in the text.
-/

namespace ShapeSearch.Scoring

open Pattern

/-- The path of a file as it is searched: slashes only, one in front, in lower case. -/
def haystack (relativePath : String) : List Char :=
  let slashed := (Text.replaceChar '\\' '/' relativePath).toList.dropWhile (· == '/')
  '/' :: (Text.lower (String.ofList slashed)).toList

def addParts (hay : List Char) : Number → List (String × Json) → Except Misfit Number
  | total, [] => .ok total
  | total, p :: r => do
    if Text.isPart (Text.lower p.1).toList hay then
      addParts hay (← total.add (Weights.orZero (some p.2))) r
    else addParts hay total r

def polarity (paths : Fields Json) (name : String) : Except Misfit (Fields Json) :=
  match paths.get? name with
  | some (.obj ws) => .ok ws
  | some v => if v.isTruthy then .error .notATable else .ok []
  | none => .ok []

def pathPoints (s : Settings) (c : Candidate) : Except Misfit Number := do
  let hay := haystack c.relativePath
  let paths ← s.weights "paths"
  let positive ← polarity paths "positive"
  let total ← addParts hay (.float 0.0) positive
  let negative ← polarity paths "negative"
  addParts hay total negative

def extensionPoints (s : Settings) (c : Candidate) : Except Misfit Number := do
  .ok (Weights.orZero ((← s.weights "extensions").get? (Text.lower (Path.extension c.fileName))))

def nameTier (stem name : String) : Option String :=
  if stem = "" then none
  else if stem = name then some "exactMatch"
  else
    let a := Text.lower stem
    let b := Text.lower name
    if a = b then some "caseInsensitive"
    else if Text.contains a b || Text.contains b a then some "partialMatch"
    else none

def fileNamePoints (s : Settings) (c : Candidate) (sig : Signature) : Except Misfit Number := do
  let ws ← s.weights "fileName"
  let stem := Path.stem c.fileName
  match sig.pattern? with
  | some p =>
    let fits ← p.matchesIn stem
    let fits ← if fits then .ok true else p.matchesIn c.fileName
    .ok (if fits then Weights.orZero (ws.get? "regexMatch") else .float 0.0)
  | none =>
    match sig.targetName.bind (nameTier stem) with
    | some tier => .ok (Weights.orZero (ws.get? tier))
    | none => .ok (.float 0.0)

def classHint : Compiled :=
  Pattern.fixed r"\bclass\s+[A-Za-z_$][\w$]*" { multiline := true }

def functionHint : Compiled :=
  Pattern.fixed r"\bfunction\b|\bdef\s+[A-Za-z_]\w*\s*\(|=>" { multiline := true }

def moduleHint : Compiled :=
  Pattern.fixed r"\bmodule\.exports\b|\bexport\s|^\s*import\s|\b__all__\b" { multiline := true }

def objectHint : Compiled :=
  Pattern.fixed (r"\b(?:const|let|var)\s+[A-Za-z_$][\w$]*\s*=\s*\x7b|" ++
    r"^[A-Za-z_]\w*\s*=\s*(?:\x7b|dict\()") { multiline := true }

/-- What a declaration of a kind looks like. -/
def hintOf : TargetType → Compiled
  | .classDef => classHint
  | .function => functionHint
  | .module => moduleHint
  | .object => objectHint

def typeHintPoints (s : Settings) (sig : Signature) (content : String) : Except Misfit Number :=
  match sig.type with
  | none => .ok (.float 0.0)
  | some t =>
    if (hintOf t).occursIn content then do
      .ok (Weights.orZero ((← s.weights "typeHints").get? t.text))
    else .ok (.float 0.0)

def mention (name : String) : Compiled :=
  Pattern.fixed (r"\b" ++ Pattern.quoteText name ++ r"\s*\(") {}

def methodPoints (s : Settings) (sig : Signature) (content : String) : Except Misfit Number :=
  if sig.methods.isEmpty then .ok (.float 0.0)
  else do
    let ws ← s.weights "methods"
    let mentioned := (sig.methods.filter fun m => (mention m).occursIn content).length
    let cap ← Weights.limit (ws.get? "maxMentions") sig.methods.length
    (Weights.orZero (ws.get? "perMention")).mul (.int (min (mentioned : Int) cap))

def exportForms (name : String) : List String :=
  let n := Pattern.quoteText name
  [r"\bexport\s+(?:declare\s+)?(?:abstract\s+)?(?:async\s+)?" ++
      r"(?:class|function\*?|const|let|var|interface|type|enum)\s+" ++ n ++ r"\b",
    r"\bexport\s*\x7b[^\x7d]*\b" ++ n ++ r"\b[^\x7d]*\x7d",
    r"\bexports\." ++ n ++ r"\s*=",
    r"\bmodule\.exports\s*=\s*" ++ n ++ r"\b",
    r"\bmodule\.exports\s*=\s*\x7b[^\x7d]*\b" ++ n ++ r"\b",
    r"^(?:async\s+def|def|class)\s+" ++ n ++ r"\b",
    r"\b__all__\s*=\s*[\[(][^\])]*['\x22]" ++ n ++ r"['\x22]"]

def defaultExport : Compiled :=
  Pattern.fixed r"\bexport\s+default\b|\bmodule\.exports\s*=" {}

def anyExport : Compiled :=
  Pattern.fixed r"\bexport\s|\bmodule\.exports\b|\bexports\.[\w$]+\s*=|\b__all__\b"
    { multiline := true }

def exportsName (name content : String) : Bool :=
  (exportForms name).any fun f => (Pattern.fixed f { multiline := true }).occursIn content

def exportPoints (s : Settings) (sig : Signature) (content : String) : Except Misfit Number := do
  let ws ← s.weights "exports"
  let best : Number := .float 0.0
  let best := match sig.exports.orElse fun _ => sig.targetName with
    | some n =>
      if exportsName n content then best.maxFirst (Weights.orZero (ws.get? "namedExport")) else best
    | none => best
  let best :=
    if defaultExport.occursIn content then best.maxFirst (Weights.orZero (ws.get? "defaultExport"))
    else best
  if best.eq (.float 0.0) && anyExport.occursIn content then
    .ok (Weights.orZero (ws.get? "moduleExports"))
  else .ok best

def nameMentions (sig : Signature) : Option Compiled :=
  match sig.pattern? with
  | some p => some p
  | none => sig.targetName.map fun n => Pattern.fixed (r"\b" ++ Pattern.quoteText n ++ r"\b") {}

def namePoints (s : Settings) (sig : Signature) (content : String) : Except Misfit Number := do
  let ws ← s.weights "names"
  match nameMentions sig with
  | none => .ok (.float 0.0)
  | some p =>
    let cap ← Weights.limit (ws.get? "maxMentions") 0
    let count ← p.countUpTo (max cap.toNat 1) content.toList
    (Weights.orZero (ws.get? "perMention")).mul (.int (min (count : Int) cap))

end ShapeSearch.Scoring
