import ShapeSearch.Json.Value

/-!
# Default settings

The weight tables, languages and lists that hold where nothing else is said.
-/

namespace ShapeSearch.Defaults

def table (ws : List (String × Int)) : Json :=
  .obj (ws.map fun p => (p.1, .ofInt p.2))

def maxFileSize : Int := 1048576

def maxConcurrency : Int := 64

def concurrency : Int := 8

def paths : Json := .obj [
  ("positive", table [("/src/", 12), ("/app/", 6), ("/lib/", 4), ("/core/", 4)]),
  ("negative", table [("/__tests__/", -50), ("/__mocks__/", -45), ("/tests/", -40), ("/test/", -35),
    ("/spec/", -35), ("/mock", -30), ("/mocks/", -30), ("/fake", -25), ("/stub", -25),
    ("/fixture", -15), ("/fixtures/", -15), ("/temp/", -15), ("/tmp/", -15), ("/sandbox/", -15),
    ("/deprecated/", -20), ("/broken", -60)])]

def scoring : Fields Json := [
  ("paths", paths),
  ("fileName", table [("exactMatch", 45), ("caseInsensitive", 30), ("partialMatch", 8),
    ("regexMatch", 12)]),
  ("extensions", table [(".ts", 18), (".tsx", 18), (".py", 10), (".mjs", 6), (".cjs", 4),
    (".js", 0)]),
  ("typeHints", table [("class", 15), ("function", 12), ("module", 10), ("object", 8)]),
  ("methods", table [("perMention", 3), ("maxMentions", 5)]),
  ("exports", table [("moduleExports", 30), ("namedExport", 30), ("defaultExport", 30)]),
  ("names", table [("perMention", 2), ("maxMentions", 5)]),
  ("target", table [("exactName", 35), ("methodPresence", 5), ("propertyPresence", 3),
    ("typeMatch", 10), ("extendsMatch", 20), ("instanceofMatch", 15), ("namedExport", 10),
    ("directExport", 5)]),
  ("recency", table [("maxBonus", 0), ("halfLifeHours", 6)]),
  ("feedback", .obj [("enabled", .bool false), ("acceptedBonus", .ofInt 15),
    ("rejectedPenalty", .ofInt (-15))])]

def blockedTokens : List String := [
  "process.exit(", "process.kill(", "child_process.exec", "child_process.spawn",
  "child_process.fork", "require('child_process')", "require(\"child_process\")", "fs.rmSync",
  "fs.rmdirSync", "fs.unlinkSync", "fs.promises.rm", "rimraf", "sys.exit(", "os._exit(", "os.kill(",
  "os.system(", "subprocess.", "shutil.rmtree(", "os.remove(", "os.unlink("]

def skipDirectories : List String := [
  "node_modules", ".git", "coverage", "dist", "build", "target", "__tests__", "__pycache__", ".next",
  ".nuxt", "deps", ".venv", "venv", ".pytest_cache", ".mypy_cache", ".tox"]

def extensions : List String := [".js", ".mjs", ".cjs", ".jsx", ".ts", ".tsx", ".py"]

def language (extensions skipPatterns : List String) (timeout : Int) : Json := .obj [
  ("enabled", .bool true),
  ("extensions", .ofTexts extensions),
  ("skipPatterns", .ofTexts skipPatterns),
  ("parser", .obj [("timeout", .ofInt timeout), ("maxFileSize", .ofInt maxFileSize)])]

def languages : Fields Json := [
  ("javascript", language [".js", ".mjs", ".cjs", ".jsx"] ["*.min.js", "*.bundle.js"] 3000),
  ("typescript", language [".ts", ".tsx"] ["*.d.ts"] 5000),
  ("python", language [".py"] ["conftest.py", "setup.py"] 5000)]

def cacheFile : String := ".sigfind-cache.json"

end ShapeSearch.Defaults
