import ShapeSearch.Json.Writer

/-!
# What can go wrong

Every failure is a cause; `message` gives its wording.
-/

namespace ShapeSearch

/-- Something is refused for a stated reason, or runs into a value that does not fit. -/
inductive Fault (ε : Type) where
  | refused (e : ε)
  | misfit (m : Misfit)

namespace Fault

def refuse {ε α : Type} : Except ε α → Except (Fault ε) α
  | .ok a => .ok a
  | .error e => .error (.refused e)

def lift {ε α : Type} : Except Misfit α → Except (Fault ε) α
  | .ok a => .ok a
  | .error m => .error (.misfit m)

/-- The fault of what is refused for a reason that shows a value, if the value can be shown. -/
def showing {ε : Type} (limits : Json.Limits) (v : Json) (e : ε) : Fault ε :=
  match v.shown limits with
  | .ok () => .refused e
  | .error m => .misfit m

end Fault

def Json.kindName : Json → String
  | .null => "NoneType"
  | .bool _ => "bool"
  | .num (.int _) => "int"
  | .num (.float _) => "float"
  | .str _ => "str"
  | .arr _ => "list"
  | .obj _ => "dict"

inductive SettingsError where
  | notATable (v : Json)
  | sectionNotATable
  | notANumber (field : String) (v : Json)
  | scoringNotATable
  | weightNotANumber (table key : String) (v : Json)
  | pathWeightNotANumber (polarity key : String)
  | lifetimeNotANumber (v : Json)
  | badDepth (v : Json)
  | badCacheFile
  | environmentInt (raw : String)
  | environmentNumber (raw : String)

def SettingsError.message : SettingsError → String
  | .notATable v => "Config must be a mapping, got " ++ v.kindName
  | .sectionNotATable => "'discovery' section must be a mapping"
  | .notANumber field v => field ++ " must be a number, got " ++ v.literal
  | .scoringNotATable => "scoring must be a mapping of weight tables"
  | .weightNotANumber table key v =>
    "scoring." ++ table ++ "." ++ key ++ " must be a number, got " ++ v.literal
  | .pathWeightNotANumber polarity key =>
    "scoring.paths." ++ polarity ++ "." ++ key ++ " must be a number"
  | .lifetimeNotANumber v => "cache ttl must be a number of seconds, got " ++ v.literal
  | .badDepth v => "maxDepth must be a non-negative integer, got " ++ v.literal
  | .badCacheFile => "cache file name must be a non-empty string"
  | .environmentInt raw =>
    "SIGFIND_CONCURRENCY must be an integer, got " ++ Json.literalText raw
  | .environmentNumber raw => "SIGFIND_MIN_SCORE must be a number, got " ++ Json.literalText raw

inductive SignatureError where
  | notATable (v : Json)
  | notAText (field : String) (v : Json)
  | notAList (field : String)
  | itemNotAText (field : String) (v : Json)
  | unknownType (name : String)
  | badPattern (name : String)
  | unconstrained

/-- The wording of a signature error; that of a refused pattern leaves room for its cause. -/
def SignatureError.message : SignatureError → String
  | .notATable v => "Signature must be a mapping or a name string, got " ++ v.kindName
  | .notAText field v =>
    "Signature field '" ++ field ++ "' must be a string, got " ++ v.kindName
  | .notAList field => "Signature field '" ++ field ++ "' must be a list of strings"
  | .itemNotAText field v =>
    "Signature field '" ++ field ++ "' must contain only strings, got " ++ v.literal
  | .unknownType name =>
    "Unknown signature type '" ++ name ++ "'. Supported: class, function, module, object"
  | .badPattern name => "Invalid name pattern " ++ Json.literalText name ++ ": "
  | .unconstrained =>
    "Signature must constrain at least one of: name, type, exports, methods, properties, extends, " ++
      "instanceof"

inductive ExtractionError where
  | unparsable (file : String)
  | timedOut (file : String)
  | notStarted (command : String)
  | exited (status : Int) (file : String) (errors : String)
  | notStructured (file : String)

/-- The wording of an extraction error; some leave room for their cause. -/
def ExtractionError.message : ExtractionError → String
  | .unparsable file => "Cannot parse " ++ file ++ ": "
  | .timedOut file => "Parser timed out for " ++ file
  | .notStarted command =>
    "Parser command " ++ Json.literalText command ++ " failed to start: "
  | .exited status file errors =>
    "Parser exited with status " ++ Decimal.intText status ++ " for " ++ file ++ ": " ++ errors
  | .notStructured file => "Parser produced invalid JSON for " ++ file ++ ": "

inductive LoadError where
  | noMetadata (path : String)
  | notSource (path : String)
  | notImportable (path : String)
  | failed (path : String)

/-- The wording of a load error; that of a failed import leaves room for its cause. -/
def LoadError.message : LoadError → String
  | .noMetadata path => "No export metadata for " ++ path
  | .notSource path => "Only Python targets can be loaded in-process: " ++ path
  | .notImportable path => "Cannot build an import spec for " ++ path
  | .failed path => "Importing " ++ path ++ " failed: "

end ShapeSearch
