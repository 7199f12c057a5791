import ShapeSearch.Path
import ShapeSearch.Settings
import ShapeSearch.Text.Case
import ShapeSearch.Text.Blank

/-!
# Looking settings up

Each function reads what one use needs: a weight table, the language of an extension, the extensions of
a language, limits, and where results are kept.
-/

namespace ShapeSearch.Settings

def weights (s : Settings) (table : String) : Except Misfit (Fields Json) :=
  match s.scoring with
  | .obj fs =>
    match Fields.get? fs table with
    | some (.obj ws) => .ok ws
    | _ => .ok []
  | _ => .error .notATable

def isEnabled (v : Json) : Except Misfit Bool :=
  match v with
  | .obj [] => .ok false
  | .obj fs =>
    match Fields.get? fs "enabled" with
    | some (.bool false) => .ok false
    | _ => .ok true
  | v => if v.isTruthy then .error .notATable else .ok false

/-- Whether a text is an item, a name or a part of a value. -/
def holds (v : Option Json) (text : String) : Except Misfit Bool :=
  match v with
  | none => .ok false
  | some (.arr xs) => .ok (xs.any fun x => x.text? == some text)
  | some (.obj fs) => .ok (Fields.has fs text)
  | some (.str s) => .ok (s ≠ "" && Text.contains s text)
  | some v => if v.isTruthy then .error .wrongKind else .ok false

def claimant (extension : String) : List (String × Json) → Except Misfit (Option String)
  | [] => .ok none
  | (name, v) :: r => do
    if ← isEnabled v then
      if ← holds (v.field? "extensions") extension then .ok (some name) else claimant extension r
    else claimant extension r

def languageTable (s : Settings) : Except Misfit (Fields Json) :=
  match s.languages with
  | .obj fs => .ok fs
  | _ => .error .notATable

/-- The language of an extension: the first that is switched on and claims it. -/
def languageFor (s : Settings) (extension : String) : Except Misfit (Option String) := do
  claimant (Text.lower extension) (← s.languageTable)

def lowerItems : List Json → Except Misfit (List String)
  | [] => .ok []
  | .str s :: r => do .ok (Text.lower s :: (← lowerItems r))
  | _ :: _ => .error .notATable

def languageExtensions (s : Settings) (language : String) : Except Misfit (List Json) := do
  match (← s.languageTable).get? (Text.lower language) with
  | none => .ok []
  | some v => if ← isEnabled v then Json.iterateOr (v.field? "extensions") else .ok []

def extensionsFor (s : Settings) (language : Option String) : Except Misfit (List Json) :=
  match language with
  | some l =>
    if l = "" then do .ok ((← lowerItems (← s.extensions.iterate)).map .str)
    else s.languageExtensions l
  | none => do .ok ((← lowerItems (← s.extensions.iterate)).map .str)

/-- The names that are passed over among files with an extension. -/
def skipPatternsFor (s : Settings) (extension : String) : Except Misfit (List Json) := do
  match ← s.languageFor extension with
  | none => .ok []
  | some l => Json.iterateOr (((← s.languageTable).get? l).bind (·.field? "skipPatterns"))

def cachePath (s : Settings) (root : String) : Except Misfit String :=
  match s.cacheFile with
  | .str f => .ok (Path.clean (Path.join root f))
  | _ => .error .wrongKind

/-- The whole part of a number above zero; nothing else is a size. -/
def sizeOf? (v : Option Json) : Except Misfit (Option Int) :=
  match v.bind Json.number? with
  | some n =>
    if (Number.int 0).lt n then
      match n.truncate? with
      | some k => .ok (some k)
      | none => .error .tooLarge
    else .ok none
  | none => .ok none

/-- The parser section of a language, empty if it is absent or counts as false. -/
def parserOf (s : Settings) (language : String) : Except Misfit (Fields Json) := do
  match (← s.languageTable).get? language with
  | none => .ok []
  | some (.obj lang) =>
    match Fields.get? lang "parser" with
    | some (.obj p) => .ok p
    | some v => if v.isTruthy then .error .notATable else .ok []
    | none => .ok []
  | some _ => .error .notATable

/-- The largest size of a file with an extension: the limit of its language, else the common one, else
the default. -/
def maxFileSizeFor (s : Settings) (extension : String) : Except Misfit Int := do
  let own ← match ← s.languageFor extension with
    | some l => if l = "" then .ok none else sizeOf? ((← s.parserOf l).get? "maxFileSize")
    | none => .ok none
  match own with
  | some n => .ok n
  | none =>
    match ← sizeOf? (some s.parserMaxFileSize) with
    | some n => .ok n
    | none => .ok Defaults.maxFileSize

/-- A number of scans at once, between one and the most allowed; what is no number gives the default. -/
def clampConcurrency (v : Json) (default : Int) : Except Misfit Int :=
  let clamp (n : Int) : Int := max 1 (min n Defaults.maxConcurrency)
  match v with
  | .num n =>
    match n.truncate? with
    | some k => .ok (clamp k)
    | none => if n.isDefined then .error .tooLarge else .ok default
  | .str t =>
    match Text.readInt? t with
    | some k => .ok (clamp k)
    | none => .ok default
  | _ => .ok default

end ShapeSearch.Settings
