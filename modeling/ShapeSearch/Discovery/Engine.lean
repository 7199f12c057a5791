import ShapeSearch.Discovery.Ranking
import ShapeSearch.Discovery.Result
import ShapeSearch.Discovery.Survey
import ShapeSearch.Evaluation
import ShapeSearch.Store.Cache
import ShapeSearch.Store.Lru

/-!
# Searching a root

An engine answers signatures for one root.  `discover` looks for a stored result first; without one it
surveys the root, evaluates every file, ranks the candidates, chooses, and stores the result.  The engine
counts what it does and remembers in which phase it is.

Every operation gives back its result together with the engine and the world after it.
-/

namespace ShapeSearch

inductive Phase where
  | idle
  | collecting
  | ranking
  | resolving
  | resolved
  | exhausted
deriving DecidableEq

def Phase.text : Phase → String
  | .idle => "idle"
  | .collecting => "collecting_candidates"
  | .ranking => "ranking"
  | .resolving => "resolving"
  | .resolved => "resolved"
  | .exhausted => "exhausted"

structure Stats where
  traversals : Nat := 0
  filesVisited : Nat := 0
  filesEvaluated : Nat := 0
  candidates : Nat := 0
  unsafeFiles : Nat := 0
  cacheHits : Nat := 0
  cacheMisses : Nat := 0
deriving DecidableEq

def Stats.toFields (s : Stats) : Fields Json := [
  ("traversals", .ofNat s.traversals), ("files_visited", .ofNat s.filesVisited),
  ("files_evaluated", .ofNat s.filesEvaluated), ("candidates", .ofNat s.candidates),
  ("unsafe", .ofNat s.unsafeFiles), ("cache_hits", .ofNat s.cacheHits),
  ("cache_misses", .ofNat s.cacheMisses)]

structure Engine where
  /-- the root after following links -/
  root : String
  settings : Settings
  maxConcurrency : Int
  aliases : Option Aliases
  feedback : Option Feedback
  cache : Cache
  modules : Modules
  phase : Phase := .idle
  stats : Stats := {}

namespace Engine

def make (w : World) (root : String) (s : Settings) : Except Misfit Engine := do
  let root ← w.realPath root
  let maxConcurrency ← Settings.clampConcurrency s.concurrency Defaults.concurrency
  let aliases ← Aliases.ofRoot w root
  let collects := ((← s.weights "feedback").get? "enabled").any Json.isTruthy
  let file ← s.cachePath root
  let cache ← Cache.make w (some file) s.cacheLifetime s.cacheEnabled.isTruthy s.cacheMemorySize
  let capacity ← Lru.capacityOf s.maxCachedModules
  .ok { root, settings := s, maxConcurrency, aliases, cache,
        feedback := if collects then some {} else none, modules := { capacity } }

def evaluator (e : Engine) : Evaluator :=
  { root := e.root, scoring := { settings := e.settings }, aliases := e.aliases,
    feedback := e.feedback }

/-! ## Collecting candidates -/

structure Haul where
  evaluated : Nat := 0
  unsafeFiles : Nat := 0
  candidates : List Candidate := []

/-- Evaluate one more file.  A file that cannot be evaluated is dropped. -/
def addCandidate (ev : Evaluator) (w : World) (sig : Signature) (includeUnsafe : Bool) (h : Haul)
    (path : String) : Haul :=
  match ev.evaluate w path sig with
  | .error _ => h
  | .ok none => { h with evaluated := h.evaluated + 1 }
  | .ok (some c) =>
    let h := { h with evaluated := h.evaluated + 1 }
    match Safety.isSafe ev.settings c.content with
    | .error _ => h
    | .ok true => { h with candidates := h.candidates ++ [{ c with safe := true }] }
    | .ok false =>
      { h with
        unsafeFiles := h.unsafeFiles + 1
        candidates := if includeUnsafe then h.candidates ++ [{ c with safe := false }] else h.candidates }

def haulOf (ev : Evaluator) (w : World) (sig : Signature) (includeUnsafe : Bool)
    (files : List String) : Haul :=
  files.foldl (addCandidate ev w sig includeUnsafe) {}

def searchedExtensions (s : Settings) (language : Option String) : Except Misfit (List String) := do
  Settings.lowerItems (← s.extensionsFor language)

def Stats.after (s : Stats) (visited : Nat) (h : Haul) : Stats :=
  { s with
    filesVisited := s.filesVisited + visited
    filesEvaluated := s.filesEvaluated + h.evaluated
    unsafeFiles := s.unsafeFiles + h.unsafeFiles
    candidates := s.candidates + h.candidates.length }

def collect (e : Engine) (w : World) (sig : Signature) (includeUnsafe : Bool) :
    Except Misfit (List Candidate) × Engine :=
  let e := { e with phase := .collecting, stats := { e.stats with traversals := e.stats.traversals + 1 } }
  match searchedExtensions e.settings sig.language with
  | .error m => (.error m, e)
  | .ok extensions =>
    match Survey.ofRoot { world := w, settings := e.settings, extensions } e.root with
    | .error (n, m) => (.error m, { e with stats := Stats.after e.stats n {} })
    | .ok survey =>
      let h := haulOf e.evaluator w sig includeUnsafe survey.files
      (.ok h.candidates, { e with stats := Stats.after e.stats survey.visited h })

def rank (e : Engine) (cs : List Candidate) : List Candidate × Engine :=
  (Ranking.rank cs, { e with phase := .ranking })

/-! ## Choosing -/

def nearMisses (limit : Int) (ranked : List Candidate) (reasons : Fields String) : List NearMiss :=
  (ranked.take limit.toNat).map fun c =>
    { path := c.path, score := c.score, breakdown := c.breakdown,
      reason := (reasons.get? c.path).getD "not attempted" }

def missLine (w : World) (root : String) (m : NearMiss) : Except Misfit String := do
  .ok ("  - " ++ (← w.shownPath root m.path) ++ " (score " ++ (← Decimal.general m.score) ++ "): " ++
    m.reason)

def missLines (w : World) (root : String) : List NearMiss → Except Misfit (List String)
  | [] => .ok []
  | m :: r => do
    let line ← missLine w root m
    let rest ← missLines w root r
    .ok (line :: rest)

def missLimit (s : Settings) : Except Misfit Int :=
  match s.maxNearMisses with
  | .num (.int n) => .ok n
  | .bool b => .ok (if b then 1 else 0)
  | .num (.float x) => if (Number.float x).lt (.int 0) then .ok 0 else .error .wrongKind
  | _ => .error .wrongKind

def notFound (e : Engine) (w : World) (sig : Signature) (ranked : List Candidate)
    (reasons : Fields String) : Except Misfit NotFound := do
  let misses := nearMisses (← missLimit e.settings) ranked reasons
  let suggested := ranked.head?.bind fun c => Suggestion.ofExports c.metadata
  let first := "No target matching " ++ sig.toJson.literal ++ " found under " ++ e.root ++ "."
  let closest ← missLines w e.root misses
  let middle :=
    if closest.isEmpty then ["No file passed the name, size, score and safety filters."]
    else "Closest candidates:" :: closest
  let last := (suggested.map fun s => "Suggested signature: " ++ s.literal).toList
  .ok { message := "\n".intercalate (first :: middle ++ last), signature := sig.toJson,
        nearMisses := misses, suggested }

/-- Choose among ranked candidates: the result with the candidate it comes from. -/
def resolve (e : Engine) (w : World) (ranked : List Candidate) (sig : Signature) :
    Except Failure (SearchResult × Candidate) × Engine :=
  match Ranking.choose e.settings sig ranked with
  | (some choice, _) =>
    let e := { e with phase := .resolved }
    match Ranking.resultOf choice sig with
    | .ok r => (.ok (r, choice.candidate), e)
    | .error m => (.error (.misfit m), e)
  | (none, reasons) =>
    let e := { e with phase := .exhausted }
    match e.notFound w sig ranked reasons with
    | .ok err => (.error (.notFound err), e)
    | .error m => (.error (.misfit m), e)

/-! ## Discovering -/

/-- A result with the engine and the world after it. -/
structure Outcome (α : Type) where
  result : Except Failure α
  engine : Engine
  world : World

/-- The breakdown of a stored result, or one that only repeats the score if they do not agree. -/
def storedBreakdown (e : CacheEntry) : Except Misfit (Fields Quantity) := do
  let difference ← (← Quantity.sumOf e.breakdown).sub e.score.value
  .ok (if (Number.float 1e-9).lt difference.abs then [("cached", e.score)] else e.breakdown)

def storedResult (root : String) (w : World) (entry : CacheEntry) (sig : Signature) :
    Except Misfit SearchResult := do
  let breakdown ← storedBreakdown entry
  .ok {
    path := entry.path
    relativePath := ← w.shownPath root entry.path
    access := entry.access
    score := entry.score
    breakdown
    exportName := (Matching.nonEmpty entry.exportName).orElse fun _ => entry.access.name
    kind := entry.kind
    fromCache := true
    signature := sig.toJson }

def entryOf (e : Engine) (w : World) (r : SearchResult) (winner : Candidate) :
    Except Misfit CacheEntry :=
  e.cache.entryFor r.path r.access r.score.value (winner.mtimeMs.getD (.int 0)) w.nowMs r.kind
    r.exportName r.breakdown

def remember (e : Engine) (w : World) (key : String) (sig : Signature) (r : SearchResult)
    (winner : Candidate) : Outcome SearchResult :=
  match e.entryOf w r winner with
  | .error m => ⟨.error (.misfit m), e, w⟩
  | .ok entry =>
    match e.cache.put w key entry with
    | (.error m, cache, w) => ⟨.error (.misfit m), { e with cache }, w⟩
    | (.ok (), cache, w) =>
      let e := { e with cache, feedback := e.feedback.map fun f => f.accept sig r.path }
      -- the score is announced at the end, so it has to have a written form
      match Decimal.general r.score.value with
      | .ok _ => ⟨.ok r, e, w⟩
      | .error m => ⟨.error (.misfit m), e, w⟩

/-- What becomes of the candidates that were collected: they are ranked, one of them is chosen, and its
result is stored. -/
def settle (w : World) (key : String) (sig : Signature) :
    Except Misfit (List Candidate) × Engine → Outcome SearchResult
  | (.error m, e) => ⟨.error (.misfit m), e, w⟩
  | (.ok cs, e) =>
    let (ranked, e) := e.rank cs
    match e.resolve w ranked sig with
    | (.error f, e) => ⟨.error f, e, w⟩
    | (.ok (r, winner), e) => e.remember w key sig r winner

def search (e : Engine) (w : World) (key : String) (sig : Signature) : Outcome SearchResult :=
  settle w key sig (e.collect w sig false)

def answerStored (e : Engine) (w : World) (entry : CacheEntry) (sig : Signature) :
    Outcome SearchResult :=
  let e := { e with phase := .resolved, stats := { e.stats with cacheHits := e.stats.cacheHits + 1 } }
  match storedResult e.root w entry sig with
  | .ok r => ⟨.ok r, e, w⟩
  | .error m => ⟨.error (.misfit m), e, w⟩

def discoverFor (e : Engine) (w : World) (sig : Signature) (useCache : Bool) :
    Outcome SearchResult :=
  let key := sig.key (some e.root)
  if useCache then
    match e.cache.get w key with
    | (.error m, cache) => ⟨.error (.misfit m), { e with cache }, w⟩
    | (.ok (some entry), cache) => answerStored { e with cache } w entry sig
    | (.ok none, cache) =>
      search { e with cache, stats := { e.stats with cacheMisses := e.stats.cacheMisses + 1 } } w key sig
  else e.search w key sig

def discover (e : Engine) (w : World) (signature : Json) (useCache : Bool) : Outcome SearchResult :=
  match Signature.normalize signature with
  | .error f => ⟨.error (.ofSignature f), e, w⟩
  | .ok sig => e.discoverFor w sig useCache

def collectFor (e : Engine) (w : World) (signature : Json) (includeUnsafe : Bool) :
    Except Failure (List Candidate) × Engine :=
  match Signature.normalize signature with
  | .error f => (.error (.ofSignature f), e)
  | .ok sig =>
    match e.collect w sig includeUnsafe with
    | (.ok cs, e) => (.ok cs, e)
    | (.error m, e) => (.error (.misfit m), e)

def resolveFor (e : Engine) (w : World) (ranked : List Candidate) (signature : Json) :
    Except Failure SearchResult × Engine :=
  match Signature.normalize signature with
  | .error f => (.error (.ofSignature f), e)
  | .ok sig =>
    match e.resolve w ranked sig with
    | (.ok (r, _), e) => (.ok r, e)
    | (.error f, e) => (.error f, e)

def recordFeedback (e : Engine) (signature : Json) (path : String) (accepted : Bool) :
    Except Failure Unit × Engine :=
  let f := e.feedback.getD {}
  match Signature.normalize signature with
  | .error x => (.error (.ofSignature x), { e with feedback := some f })
  | .ok sig =>
    (.ok (), { e with feedback := some (if accepted then f.accept sig path else f.reject sig path) })

def clearCache (e : Engine) (w : World) : Engine × World :=
  let (cache, w) := e.cache.clear w
  ({ e with cache, modules := (e.modules.clear []).1 }, w)

/-- Load the file of a result.  Files are not run here, so this says only why it cannot be done. -/
def load (w : World) (path : String) : Except LoadError Unit :=
  let extension := Path.extension path
  if Text.lower extension ≠ ".py" then .error (.notSource path)
  else if extension ≠ ".py" then .error (.notImportable path)
  else if (w.file? path).isNone then .error (.failed path)
  else .ok ()

end Engine

end ShapeSearch
