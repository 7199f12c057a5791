import ShapeSearch.Client
import ShapeSearch.Report

/-!
# Tools for agents

A service offers four tools to programs that talk to it in structured text, and one prompt.  One client
serves all calls.
-/

namespace ShapeSearch

inductive ToolCall where
  | discover (signature : Fields Json) (root : String) (useCache : Bool)
  | candidates (signature : Fields Json) (root : String) (limit : Int)
  | clearCache (root : String)
  | health

namespace ToolCall

def cleaned (xs : List String) : List String :=
  (xs.map Text.trim).filter (· ≠ "")

def namesOf : Json → Json
  | .str s =>
    match cleaned ((Text.splitOnChar ',' s.toList).map String.ofList) with
    | [] => .null
    | xs => .ofTexts xs
  | .arr vs =>
    match cleaned (vs.map Json.display) with
    | [] => .null
    | xs => .ofTexts xs
  | _ => .null

def isGiven : Json → Bool
  | .null => false
  | .str s => s ≠ ""
  | _ => true

/-- The signature that arguments describe; what is not given is left out. -/
def signatureOf (args : Fields Json) : Fields Json :=
  let given (k : String) : Json := (args.get? k).getD .null
  [("name", given "name"), ("type", given "type"), ("exports", given "exports"),
    ("methods", namesOf (given "methods")), ("properties", namesOf (given "properties")),
    ("extends", given "extends"), ("language", given "language")].filter fun p => isGiven p.2

def textOr (args : Fields Json) (k default : String) : String :=
  ((args.get? k).bind Json.text?).getD default

def intOr (args : Fields Json) (k : String) (default : Int) : Int :=
  match args.get? k with
  | some (.num (.int n)) => n
  | _ => default

def flagOr (args : Fields Json) (k : String) (default : Bool) : Bool :=
  match args.get? k with
  | some (.bool b) => b
  | _ => default

/-- The arguments that a list of candidates can be narrowed by. -/
def listArguments : List String := ["name", "type", "methods"]

def ofRequest? (tool : String) (args : Fields Json) : Option ToolCall :=
  match tool with
  | "discover_target" =>
    some (.discover (signatureOf args) (textOr args "root" ".") (flagOr args "use_cache" true))
  | "list_candidates" =>
    some (.candidates (signatureOf (args.filter fun p => listArguments.contains p.1))
      (textOr args "root" ".") (intOr args "limit" 10))
  | "clear_cache" => some (.clearCache (textOr args "root" "."))
  | "health" => some .health
  | _ => none

/-- The root that is meant: a single dot stands for the default root, if the environment has one. -/
def rootOf (env : Fields String) (root : String) : String :=
  if root = "." then
    let default := Text.trim ((env.get? "SIGFIND_DEFAULT_ROOT").getD "")
    if default = "" then root else default
  else root

/-- A call that gives no answer: the service says that the tool failed, and not of what. -/
structure ToolError where
  cause : Misfit

structure Answer where
  text : Except ToolError String
  client : Client
  world : World

def failureText (more : Fields Json) : Failure → Except ToolError String
  | .signature e => .ok ((Json.obj (("error", .str e.message) :: more)).write .line)
  | .settings e => .ok ((Json.obj (("error", .str e.message) :: more)).write .line)
  | .load e => .ok ((Json.obj (("error", .str e.message) :: more)).write .line)
  | .notFound e => .ok (Report.structured e.toJson (some 2))
  | .misfit m => .error ⟨m⟩

def run (c : Client) (w : World) : ToolCall → Answer
  | .discover sig root useCache =>
    let o := c.discover w (rootOf w.env root) (.obj sig) useCache
    ⟨match o.result with
      | .ok r => .ok (Report.structured r.toJson (some 2))
      | .error f => failureText [] f, o.client, o.world⟩
  | .candidates sig root limit =>
    let o := c.candidates w (rootOf w.env root) (.obj sig) (some (max 1 limit))
    ⟨match o.result with
      | .ok cs => .ok (Report.structured (.arr (cs.map Candidate.toJson)) (some 2))
      | .error f => failureText [("candidates", .arr [])] f, o.client, o.world⟩
  | .clearCache root =>
    let root := rootOf w.env root
    let o := c.clearCache w root
    ⟨match o.result with
      | .ok () => .ok ((Json.obj [("status", .str "cleared"), ("root", .str root)]).write .line)
      | .error f => failureText [] f, o.client, o.world⟩
  | .health => ⟨.ok ((Json.obj (("status", .str "ok") :: c.health)).write .line), c, w⟩

/-- The prompt that asks an agent to locate an entity. -/
def locatePrompt (name root : String) : String :=
  "Call discover_target with name='" ++ name ++ "' and root='" ++ root ++ "'. " ++
    "If it fails, call list_candidates with the same arguments and " ++
    "retry with the suggested signature from the error."

end ToolCall

end ShapeSearch
