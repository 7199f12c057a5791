import ShapeSearch.Client
import ShapeSearch.CommandLine.Options
import ShapeSearch.Report

/-!
# The command line

Four commands: `discover` answers a signature, `why` lists the candidates, `doctor` answers without what
is stored and says what was looked at, and `clear-cache` forgets what is stored.  `run` is a function of
the world and the words, and gives back what is printed together with the world after it.
-/

namespace ShapeSearch.CommandLine

/-- How a command ends: with a status and what it prints, or on a value that does not fit. -/
inductive Ending where
  | exited (status : Nat) (output errors : String)
  | crashed (m : Misfit)

structure Run where
  ending : Ending
  world : World

inductive Command where
  | discover
  | why
  | doctor
  | clearCache
deriving DecidableEq

namespace Command

def name : Command → String
  | .discover => "discover"
  | .why => "why"
  | .doctor => "doctor"
  | .clearCache => "clear-cache"

def all : List Command := [.discover, .why, .doctor, .clearCache]

def ofName? (s : String) : Option Command :=
  all.find? fun c => c.name = s

def arity : Command → Nat
  | .clearCache => 0
  | _ => 1

def usage (program : String) (c : Command) : String :=
  "Usage: " ++ program ++ " " ++ c.name ++
    (match c.arity with
      | 0 => " [OPTIONS]"
      | _ => " [OPTIONS] [NAME]")

def rootOption : OptionSpec := { short := some 'r', long := "root", kind := .directory }

def configOption : OptionSpec := { short := some 'c', long := "config", kind := .file }

def helpOption : OptionSpec := { long := "help", kind := .flag }

def signatureOptions : List OptionSpec := [
  { long := "signature" },
  { short := some 't', long := "type", kind := .oneOf ["class", "function", "object", "module"] },
  { short := some 'e', long := "exports" },
  { short := some 'm', long := "method" },
  { short := some 'p', long := "property" },
  { long := "extends" },
  { long := "language" },
  rootOption,
  configOption,
  { short := some 'f', long := "format", kind := .oneOf ["console", "json"] },
  { short := some 'v', long := "verbose", kind := .flag }]

def options : Command → List OptionSpec
  | .discover => signatureOptions ++ [{ long := "no-cache", kind := .flag }, helpOption]
  | .why => signatureOptions ++ [{ short := some 'n', long := "limit", kind := .int }, helpOption]
  | .doctor => signatureOptions ++ [helpOption]
  | .clearCache => [rootOption, configOption, helpOption]

end Command

/-! ## Signatures and settings -/

def textField (k : String) : Option String → Fields Json
  | some s => if s = "" then [] else [(k, .str s)]
  | none => []

def listField (k : String) (xs : List String) : Fields Json :=
  if xs.isEmpty then [] else [(k, .ofTexts xs)]

def describedSignature (name : Option String) (ws : Words) : Fields Json :=
  textField "name" name ++ textField "type" (ws.last? "type") ++
    textField "exports" (ws.last? "exports") ++ listField "methods" (ws.all "method") ++
    listField "properties" (ws.all "property") ++ textField "extends" (ws.last? "extends") ++
    textField "language" (ws.last? "language")

def writtenSignature (ws : Words) : Except (Fault UsageError) (Fields Json) :=
  match ws.last? "signature" with
  | none => .ok []
  | some "" => .ok []
  | some text =>
    match Json.read text with
    | .error e =>
      match e.problem.misfit? with
      | some m => .error (.misfit m)
      | none => .error (.refused (.badSignature ("invalid JSON: " ++ e.message text.toList)))
    | .ok (.obj fs) => .ok fs
    | .ok _ => .error (.refused (.badSignature "must be a JSON object"))

/-- The signature on a command line; the fields of `--signature` come last and win. -/
def signatureOf (ws : Words) : Except (Fault UsageError) Json := do
  let fs := Fields.putAll (describedSignature ws.arguments.head? ws) (← writtenSignature ws)
  if fs.isEmpty then .error (.refused .noSignature) else .ok (.obj fs)

inductive ConfigProblem where
  | refused (reason : String)
  | misfit (m : Misfit)

def configStep {α : Type} : Except (Fault SettingsError) α → Except ConfigProblem α
  | .ok a => .ok a
  | .error (.refused e) => .error (.refused e.message)
  | .error (.misfit m) => .error (.misfit m)

def fileSettings (w : World) (path : String) : Except ConfigProblem Settings :=
  match (w.file? path).bind File.lines with
  | none => .error (.misfit .undecodable)
  | some text =>
    match Json.read text with
    | .error e =>
      match e.problem.misfit? with
      | some m => .error (.misfit m)
      | none => .error (.refused (e.message text.toList))
    | .ok v => configStep (Settings.ofJson v)

def settingsFor (w : World) (ws : Words) (noCache : Bool) : Except ConfigProblem Settings := do
  let given ← match ws.last? "config" with
    | some path => fileSettings w path
    | none => configStep (Fault.refuse (Settings.ofEnvironment w.env))
  let s : Settings := if noCache then { given with cacheEnabled := .bool false } else given
  let () ← configStep s.validate
  .ok s

/-! ## Commands -/

def printed (w : World) (text : String) : Run :=
  ⟨.exited 0 (text ++ "\n") "", w⟩

def reported (w : World) : Except Misfit String → Run
  | .ok text => printed w text
  | .error m => ⟨.crashed m, w⟩

def failed (w : World) (status : Nat) (text : String) : Run :=
  ⟨.exited status "" (text ++ "\n"), w⟩

/-- The run that ends in a failure other than that nothing was found. -/
def failedWith (w : World) : Failure → Run
  | .signature e => failed w 2 ("Error: invalid signature: " ++ e.message)
  | .settings e => failed w 2 ("Error: invalid configuration: " ++ e.message)
  | .load e => failed w 1 ("Error: " ++ e.message)
  | .notFound e => failed w 1 ("Error: " ++ e.message)
  | .misfit m => ⟨.crashed m, w⟩

def rootOf (ws : Words) : String :=
  (ws.last? "root").getD "."

def wantsStructure (ws : Words) : Bool :=
  ws.last? "format" = some "json"

def runDiscover (w : World) (ws : Words) (c : Client) (sig : Json) : Run :=
  let o := c.discover w (rootOf ws) sig (!ws.has "no-cache")
  let columns := Report.columnsOf w.env
  match o.result with
  | .ok r =>
    reported o.world
      (if wantsStructure ws then .ok (Report.structured r.toJson (some 2))
        else Report.result columns r (some (.float 0.0)))
  | .error (.notFound e) =>
    if wantsStructure ws then ⟨.exited 1 (Report.structured e.toJson (some 2) ++ "\n") "", o.world⟩
    else
      match Report.notFound columns e with
      | .ok text => failed o.world 1 text
      | .error m => ⟨.crashed m, o.world⟩
  | .error f => failedWith o.world f

def runWhy (w : World) (ws : Words) (c : Client) (sig : Json) : Run :=
  let limit := ((ws.last? "limit").bind Text.readInt?).getD 10
  let o := c.candidates w (rootOf ws) sig (some limit)
  match o.result with
  | .ok cs =>
    reported o.world
      (if wantsStructure ws then .ok (Report.structured (.arr (cs.map Candidate.toJson)) (some 2))
        else Report.candidates (Report.columnsOf w.env) cs)
  | .error f => failedWith o.world f

def statsLine (s : Stats) : String :=
  "  Visited " ++ Decimal.natText s.filesVisited ++ " files, evaluated " ++
    Decimal.natText s.filesEvaluated ++ ", " ++ Decimal.natText s.candidates ++ " candidates (" ++
    Decimal.natText s.unsafeFiles ++ " unsafe)"

def runDoctor (w : World) (ws : Words) (c : Client) (sig : Json) : Run :=
  let o := c.discover w (rootOf ws) sig false
  let columns := Report.columnsOf w.env
  match o.result with
  | .ok r =>
    match (o.client.stats o.world (rootOf ws)).result with
    | .error f => failedWith o.world f
    | .ok stats =>
      reported o.world
        (if wantsStructure ws then
          .ok (Report.structured (.obj [("result", r.toJson), ("stats", .obj stats.toFields)]) (some 2))
        else do .ok ((← Report.result columns r none) ++ "\n" ++ statsLine stats))
  | .error (.notFound e) =>
    match (if wantsStructure ws then .ok (Report.structured e.toJson (some 2))
      else Report.notFound columns e) with
    | .ok text => ⟨.exited 1 (text ++ "\n") "", o.world⟩
    | .error m => ⟨.crashed m, o.world⟩
  | .error f => failedWith o.world f

def runClearCache (w : World) (ws : Words) (c : Client) : Run :=
  let o := c.clearCache w (rootOf ws)
  match o.result with
  | .error f => failedWith o.world f
  | .ok () =>
    match o.world.realPath (rootOf ws) >>= c.settings.cachePath with
    | .ok path => printed o.world ("Cleared " ++ path)
    | .error m => ⟨.crashed m, o.world⟩

def refusal (w : World) (usage help : String) (e : UsageError) : Run :=
  let start := if e.showsUsage then usage ++ "\nTry '" ++ help ++ " --help' for help.\n\n" else ""
  failed w 2 (start ++ "Error: " ++ e.message)

def runWith (program : String) (w : World) (cmd : Command) (ws : Words) (s : Settings) : Run :=
  let c : Client := { settings := s }
  match cmd with
  | .clearCache => runClearCache w ws c
  | _ =>
    match signatureOf ws with
    | .error (.refused e) => refusal w (cmd.usage program) (program ++ " " ++ cmd.name) e
    | .error (.misfit m) => ⟨.crashed m, w⟩
    | .ok sig =>
      match cmd with
      | .why => runWhy w ws c sig
      | .doctor => runDoctor w ws c sig
      | _ => runDiscover w ws c sig

def runCommand (program : String) (w : World) (cmd : Command) (words : List String) : Run :=
  match readCommand w cmd.options cmd.arity words with
  | .error (.refused e) => refusal w (cmd.usage program) (program ++ " " ++ cmd.name) e
  | .error (.misfit m) => ⟨.crashed m, w⟩
  | .ok ws =>
    if ws.has "help" then printed w (cmd.usage program)
    else
      match settingsFor w ws (cmd = .doctor || ws.has "no-cache") with
      | .error (.refused reason) => failed w 2 ("Error: invalid configuration: " ++ reason)
      | .error (.misfit m) => ⟨.crashed m, w⟩
      | .ok s => runWith program w cmd ws s

def usage (program : String) : String :=
  "Usage: " ++ program ++ " [OPTIONS] COMMAND [ARGS]..."

def programOptions : List OptionSpec :=
  [{ long := "version", kind := .flag }, Command.helpOption]

/-- The names of all commands, that of the server for editors among them, as they are suggested. -/
def commandNames : List String :=
  Command.all.map Command.name ++ ["mcp"]

def run (program : String) (w : World) (words : List String) : Run :=
  match readWords programOptions false none words {} with
  | .error e => refusal w (usage program) program e
  | .ok ws =>
    if ws.has "version" then printed w (program ++ ", version " ++ version)
    else if ws.has "help" then printed w (usage program)
    else
      match ws.arguments with
      | [] => refusal w (usage program) program .noCommand
      | name :: r =>
        match Command.ofName? name with
        | some cmd => runCommand program w cmd r
        | none =>
          refusal w (usage program) program
            (.noSuchCommand name (Text.closeMatches name commandNames))

end ShapeSearch.CommandLine
