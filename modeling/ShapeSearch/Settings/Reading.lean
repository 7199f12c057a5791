import ShapeSearch.Settings
import ShapeSearch.Settings.Merge
import ShapeSearch.Text.Blank
import ShapeSearch.Text.Case

/-!
# Reading settings

`Settings.ofJson` reads settings from a document, or from its section of that name; weight tables and
languages are merged over the defaults.  `validate` checks what was read, and the first fault in a fixed
order is reported.  `ofEnvironment` reads the few settings that the environment can hold.
-/

namespace ShapeSearch.Settings

/-! ## Checks -/

/-- A number is needed; truth values are none. -/
def checkNumber (limits : Json.Limits) (field : String) (v : Json) : Except (Fault SettingsError) Unit :=
  match v.number? with
  | some _ => .ok ()
  | none => .error (.showing limits v (.notANumber field v))

def checkWeights (report : String → Json → Fault SettingsError) :
    Fields Json → Except (Fault SettingsError) Unit
  | [] => .ok ()
  | (k, v) :: r =>
    match v.number? with
    | some _ => checkWeights report r
    | none => .error (report k v)

def tableOr (v : Option Json) : Except Misfit (Fields Json) :=
  match v with
  | some (.obj fs) => .ok fs
  | some v => if v.isTruthy then .error .notATable else .ok []
  | none => .ok []

def checkTable (limits : Json.Limits) (scoring : Fields Json) (name : String) :
    Except (Fault SettingsError) Unit := do
  let ws ← Fault.lift (tableOr (scoring.get? name))
  checkWeights (fun k v => .showing limits v (.weightNotANumber name k v)) ws

def checkPaths (scoring : Fields Json) (polarity : String) :
    Except (Fault SettingsError) Unit := do
  let paths ← match scoring.get? "paths" with
    | none => .ok []
    | some (.obj fs) => .ok fs
    | some _ => .error (.misfit .notATable)
  let ws ← Fault.lift (tableOr (Fields.get? paths polarity))
  checkWeights (fun k _ => .refused (.pathWeightNotANumber polarity k)) ws

/-- Whether a value is a whole number, truth values included, and not below zero. -/
def isDepth : Json → Bool
  | .num (.int n) => 0 ≤ n
  | .bool _ => true
  | _ => false

def isFileName : Json → Bool
  | .str s => s ≠ ""
  | _ => false

def validate (s : Settings) (limits : Json.Limits := .usual) : Except (Fault SettingsError) Unit := do
  checkNumber limits "min_candidate_score" s.minCandidateScore
  checkNumber limits "loose_name_penalty" s.looseNamePenalty
  match s.scoring with
  | .obj scoring =>
    checkTable limits scoring "fileName"
    checkTable limits scoring "extensions"
    checkTable limits scoring "typeHints"
    checkTable limits scoring "exports"
    checkTable limits scoring "target"
    checkPaths scoring "positive"
    checkPaths scoring "negative"
  | _ => .error (.refused .scoringNotATable)
  if s.cacheLifetime.numeric?.isNone then
    .error (.showing limits s.cacheLifetime (.lifetimeNotANumber s.cacheLifetime))
  else if !isDepth s.maxDepth then .error (.showing limits s.maxDepth (.badDepth s.maxDepth))
  else if !isFileName s.cacheFile then .error (.refused .badCacheFile)
  else .ok ()

/-! ## Documents -/

/-- Whether a name occurs in a section: as a field, an item or a part of a text. -/
def mentions (v : Json) (name : String) : Except Misfit Bool :=
  match v with
  | .obj fs => .ok (Fields.has fs name)
  | .arr xs => .ok (xs.any fun x => x.text? == some name)
  | .str s => .ok (Text.contains s name)
  | _ => .error .wrongKind

def sectionField? (v : Json) (name : String) : Except Misfit (Option Json) := do
  if ← mentions v name then
    match v with
    | .obj fs => .ok (Fields.get? fs name)
    | _ => .error .wrongKind
  else .ok none

def sectionOr (doc : Fields Json) (name : String) : Json :=
  match doc.get? name with
  | some v => if v.isTruthy then v else .obj []
  | none => .obj []

def scalarNames : List String :=
  ["minCandidateScore", "allowLooseNameMatch", "looseNamePenalty"]

def readScoring (limit : Nat) (s : Settings) (v : Json) : Except Misfit Settings := do
  match v with
  | .obj [] => .ok s
  | .obj fs =>
    let tables := fs.filter fun p => !scalarNames.contains p.1
    .ok { s with
      scoring := .obj (← Json.mergeTables limit Defaults.scoring tables)
      minCandidateScore := (Fields.get? fs "minCandidateScore").getD s.minCandidateScore
      allowLooseNameMatch := match Fields.get? fs "allowLooseNameMatch" with
        | some b => .bool b.isTruthy
        | none => s.allowLooseNameMatch
      looseNamePenalty := (Fields.get? fs "looseNamePenalty").getD s.looseNamePenalty }
  | _ => .error .notATable

def readSecurity (s : Settings) (v : Json) : Except Misfit Settings := do
  let tokens ← match ← sectionField? v "blockedTokens" with
    | some t => .ok (.arr (← Json.iterateOr (some t)))
    | none => .ok s.blockedTokens
  let requires ← mentions v "allowUnsafeRequires"
  let unsafeNamed ← if requires then .ok true else mentions v "allowUnsafe"
  if unsafeNamed then
    match v with
    | .obj fs =>
      let flag := match Fields.get? fs "allowUnsafe" with
        | some b => some b
        | none => Fields.get? fs "allowUnsafeRequires"
      .ok { s with blockedTokens := tokens, allowUnsafe := .bool (flag.any Json.isTruthy) }
    | _ => .error .notATable
  else .ok { s with blockedTokens := tokens }

def readLanguages (limit : Nat) (s : Settings) (doc : Fields Json) : Except Misfit Settings := do
  match doc.get? "languages" with
  | none => .ok s
  | some v =>
    let changes ← tableOr (some v)
    .ok { s with languages := .obj (← Json.mergeTables limit Defaults.languages changes) }

def readParser (s : Settings) (v : Json) : Except Misfit Settings := do
  .ok { s with parserMaxFileSize := (← sectionField? v "maxFileSize").getD s.parserMaxFileSize }

def readCache (s : Settings) (v : Json) : Except Misfit Settings := do
  let enabled ← sectionField? v "enabled"
  let file ← sectionField? v "file"
  let lifetime ← sectionField? v "ttl"
  .ok { s with
    cacheEnabled := match enabled with
      | some b => .bool b.isTruthy
      | none => s.cacheEnabled
    cacheFile := file.getD s.cacheFile
    cacheLifetime := lifetime.getD s.cacheLifetime }

def readTraversal (s : Settings) (doc : Fields Json) : Except Misfit Settings := do
  let extensions ← match doc.get? "extensions" with
    | some v => listOf v
    | none => .ok s.extensions
  let skipDirectories ← match doc.get? "skipDirectories" with
    | some v => setOf v
    | none => .ok s.skipDirectories
  .ok { s with
    extensions
    skipDirectories
    maxDepth := (doc.get? "maxDepth").getD s.maxDepth
    concurrency := (doc.get? "concurrency").getD s.concurrency }

def ofSection (limit : Nat) (doc : Fields Json) : Except Misfit Settings := do
  let s ← readScoring limit {} (sectionOr doc "scoring")
  let s ← readSecurity s (sectionOr doc "security")
  let s ← readLanguages limit s doc
  let s ← readParser s (sectionOr doc "parser")
  let s ← readCache s (sectionOr doc "cache")
  readTraversal s doc

/-- Settings from a document; its values are copied, and shown where they are refused, within limits. -/
def ofJson (d : Json) (limits : Json.Limits := .usual) : Except (Fault SettingsError) Settings :=
  match d with
  | .null => .ok {}
  | .obj doc =>
    match (Fields.get? doc "discovery").getD (.obj doc) with
    | .obj sec => do
      let s ← Fault.lift (ofSection limits.steps sec)
      s.validate limits
      .ok s
    | _ => .error (.refused .sectionNotATable)
  | v => .error (.refused (.notATable v))

/-! ## Environment -/

def onWords : List String := ["1", "true", "yes", "on"]

def ofEnvironment (env : Fields String) : Except SettingsError Settings := do
  let concurrencyText := (env.get? "SIGFIND_CONCURRENCY").getD "8"
  let minScoreText := (env.get? "SIGFIND_MIN_SCORE").getD "-100"
  let concurrency ← match Text.readInt? concurrencyText with
    | some n => .ok n
    | none => .error (.environmentInt concurrencyText)
  let minScore ← match Text.readFloat? minScoreText with
    | some x => .ok x
    | none => .error (.environmentNumber minScoreText)
  .ok {
    cacheEnabled := .bool (onWords.contains (Text.lower ((env.get? "SIGFIND_CACHE").getD "1")))
    cacheFile := .str ((env.get? "SIGFIND_CACHE_FILE").getD Defaults.cacheFile)
    concurrency := .ofInt concurrency
    minCandidateScore := .num (.float minScore)
    logLevel := .str (Text.upper ((env.get? "SIGFIND_LOG_LEVEL").getD "INFO")) }

end ShapeSearch.Settings
