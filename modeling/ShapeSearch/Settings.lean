import ShapeSearch.Export
import ShapeSearch.Settings.Defaults

/-!
# Settings

Settings come from outside and are kept as they were given; each use reads the part it needs.
`replace` changes single settings by name and checks nothing but the names.
-/

namespace ShapeSearch

structure Settings where
  extensions : Json := .ofTexts Defaults.extensions
  skipDirectories : Json := .ofTexts Defaults.skipDirectories
  maxDepth : Json := .ofInt 10
  concurrency : Json := .ofInt Defaults.concurrency
  scoring : Json := .obj Defaults.scoring
  minCandidateScore : Json := .num (.float (-100.0))
  allowLooseNameMatch : Json := .bool true
  looseNamePenalty : Json := .num (.float (-25.0))
  blockedTokens : Json := .ofTexts Defaults.blockedTokens
  allowUnsafe : Json := .bool false
  languages : Json := .obj Defaults.languages
  parserMaxFileSize : Json := .null
  cacheEnabled : Json := .bool true
  cacheFile : Json := .str Defaults.cacheFile
  cacheLifetime : Json := .ofInt 86400
  cacheMemorySize : Json := .ofInt 100
  maxCachedModules : Json := .ofInt 100
  maxNearMisses : Json := .ofInt 3
  logLevel : Json := .str "INFO"
  logFormat : Json := .str "%(asctime)s - %(name)s - %(levelname)s - %(message)s"

namespace Settings

def toFields (s : Settings) : Fields Json := [
  ("extensions", s.extensions), ("skip_directories", s.skipDirectories),
  ("max_depth", s.maxDepth), ("concurrency", s.concurrency), ("scoring", s.scoring),
  ("min_candidate_score", s.minCandidateScore),
  ("allow_loose_name_match", s.allowLooseNameMatch),
  ("loose_name_penalty", s.looseNamePenalty), ("blocked_tokens", s.blockedTokens),
  ("allow_unsafe", s.allowUnsafe), ("languages", s.languages),
  ("parser_max_file_size", s.parserMaxFileSize), ("cache_enabled", s.cacheEnabled),
  ("cache_file", s.cacheFile), ("cache_ttl", s.cacheLifetime),
  ("cache_memory_size", s.cacheMemorySize), ("max_cached_modules", s.maxCachedModules),
  ("max_near_misses", s.maxNearMisses), ("log_level", s.logLevel), ("log_format", s.logFormat)]

def listOf (v : Json) : Except Misfit Json := do
  .ok (.arr (← v.iterate))

/-- Add the items of a list to a set; lists and tables cannot be members. -/
def addMembers : List Json → List Json → Except Misfit (List Json)
  | out, [] => .ok out
  | _, .arr _ :: _ => .error .wrongKind
  | _, .obj _ :: _ => .error .wrongKind
  | out, v :: r => addMembers (if out.any (·.same v) then out else out ++ [v]) r

def setOf (v : Json) : Except Misfit Json := do
  .ok (.arr (← addMembers [] (← v.iterate)))

def set (s : Settings) (name : String) (v : Json) : Except Misfit Settings :=
  match name with
  | "extensions" => do .ok { s with extensions := ← listOf v }
  | "skip_directories" => do .ok { s with skipDirectories := ← setOf v }
  | "max_depth" => .ok { s with maxDepth := v }
  | "concurrency" => .ok { s with concurrency := v }
  | "scoring" => .ok { s with scoring := v }
  | "min_candidate_score" => .ok { s with minCandidateScore := v }
  | "allow_loose_name_match" => .ok { s with allowLooseNameMatch := v }
  | "loose_name_penalty" => .ok { s with looseNamePenalty := v }
  | "blocked_tokens" => do .ok { s with blockedTokens := ← listOf v }
  | "allow_unsafe" => .ok { s with allowUnsafe := v }
  | "languages" => .ok { s with languages := v }
  | "parser_max_file_size" => .ok { s with parserMaxFileSize := v }
  | "cache_enabled" => .ok { s with cacheEnabled := v }
  | "cache_file" => .ok { s with cacheFile := v }
  | "cache_ttl" => .ok { s with cacheLifetime := v }
  | "cache_memory_size" => .ok { s with cacheMemorySize := v }
  | "max_cached_modules" => .ok { s with maxCachedModules := v }
  | "max_near_misses" => .ok { s with maxNearMisses := v }
  | "log_level" => .ok { s with logLevel := v }
  | "log_format" => .ok { s with logFormat := v }
  | _ => .error .wrongKind

def replace (s : Settings) : Fields Json → Except Misfit Settings
  | [] => .ok s
  | (name, v) :: r => do (← s.set name v).replace r

end Settings

end ShapeSearch
