import ShapeSearch.Text.Similar
import ShapeSearch.World

/-!
# Options on a command line

Words are read from left to right.  A word that starts with a dash is an option: a long one takes its
value after an equals sign or from the next word, short ones can share a word, and the last of them can
have its value right behind it.  Two dashes end the options.  All other words are arguments.

Values are checked in the order in which their options were first mentioned.
-/

namespace ShapeSearch.CommandLine

inductive OptionKind where
  | flag
  | text
  | oneOf (choices : List String)
  | int
  | directory
  | file

structure OptionSpec where
  short : Option Char := none
  long : String
  kind : OptionKind := .text

inductive UsageError where
  | noSuchOption (name : String) (similar : List String)
  | noValue (name : String)
  | surplusValue (name : String)
  | notOneOf (option : OptionSpec) (value : String) (choices : List String)
  | notAnInt (option : OptionSpec) (value : String)
  | missing (option : OptionSpec) (noun value : String)
  | isFile (option : OptionSpec) (value : String)
  | isDirectory (option : OptionSpec) (value : String)
  | surplus (words : List String)
  | badSignature (reason : String)
  | noSignature
  | noSuchCommand (name : String) (similar : List String)
  | noCommand

def quoted (s : String) : String :=
  Json.literalText s

namespace OptionSpec

def longName (o : OptionSpec) : String := "--" ++ o.long

def shown (o : OptionSpec) : String :=
  match o.short with
  | some c => quoted ("-" ++ String.singleton c) ++ " / " ++ quoted o.longName
  | none => quoted o.longName

def takesValue (o : OptionSpec) : Bool :=
  match o.kind with
  | .flag => false
  | _ => true

end OptionSpec

namespace UsageError

def suggestion : List String → String
  | [] => ""
  | [x] => " Did you mean " ++ quoted x ++ "?"
  | xs => " (Did you mean one of: " ++ ", ".intercalate ((xs.mergeSort fun a b => decide (a ≤ b)).map quoted) ++ "?)"

def invalidValue (option : OptionSpec) (reason : String) : String :=
  "Invalid value for " ++ option.shown ++ ": " ++ reason

def message : UsageError → String
  | .noSuchOption name similar => "No such option " ++ quoted name ++ "." ++ suggestion similar
  | .noValue name => "Option " ++ quoted name ++ " requires an argument."
  | .surplusValue name => "Option " ++ quoted name ++ " does not take a value."
  | .notOneOf option value choices =>
    invalidValue option (quoted value ++ " is not one of " ++ ", ".intercalate (choices.map quoted) ++ ".")
  | .notAnInt option value => invalidValue option (quoted value ++ " is not a valid integer.")
  | .missing option noun value =>
    invalidValue option (noun ++ " " ++ quoted value ++ " does not exist.")
  | .isFile option value => invalidValue option ("Directory " ++ quoted value ++ " is a file.")
  | .isDirectory option value => invalidValue option ("File " ++ quoted value ++ " is a directory.")
  | .surplus words =>
    (if words.length = 1 then "Got unexpected extra argument (" else "Got unexpected extra arguments (") ++
      " ".intercalate words ++ ")"
  | .badSignature reason => "Invalid value for --signature: " ++ reason
  | .noSignature => "Provide a NAME or --signature."
  | .noSuchCommand name similar => "No such command " ++ quoted name ++ "." ++ suggestion similar
  | .noCommand => "Missing command."

def showsUsage : UsageError → Bool
  | .noValue _ => false
  | .surplusValue _ => false
  | _ => true

end UsageError

/-- What stands on a command line: the values of options by long name, in order of first mention, and
the arguments. -/
structure Words where
  values : Fields (List String) := []
  arguments : List String := []

namespace Words

def add (ws : Words) (o : OptionSpec) (v : String) : Words :=
  { ws with values := ws.values.put o.long ((ws.values.get? o.long).getD [] ++ [v]) }

def last? (ws : Words) (long : String) : Option String :=
  (ws.values.get? long).bind List.getLast?

def all (ws : Words) (long : String) : List String :=
  (ws.values.get? long).getD []

def has (ws : Words) (long : String) : Bool :=
  ws.values.has long

end Words

/-- What a word says: it ends the options, is an argument, or mentions options, of which the last may
wait for its value. -/
inductive Reading where
  | ends
  | argument
  | settled (ws : Words)
  | waiting (ws : Words) (o : OptionSpec) (name : String)

def readShort (specs : List OptionSpec) : List Char → Words → Except UsageError Reading
  | [], ws => .ok (.settled ws)
  | c :: r, ws =>
    match specs.find? fun o => o.short = some c with
    | none => .error (.noSuchOption ("-" ++ String.singleton c) [])
    | some o =>
      if o.takesValue then
        if r.isEmpty then .ok (.waiting ws o ("-" ++ String.singleton c))
        else .ok (.settled (ws.add o (String.ofList r)))
      else readShort specs r (ws.add o "")

/-- A long option with the value behind its equals sign, if it has one. -/
def readLong (specs : List OptionSpec) (name : String) (value : Option String) (ws : Words) :
    Except UsageError Reading :=
  match specs.find? fun o => o.longName = name with
  | none => .error (.noSuchOption name (Text.closeMatches name (specs.map OptionSpec.longName)))
  | some o =>
    if o.takesValue then
      match value with
      | some v => .ok (.settled (ws.add o v))
      | none => .ok (.waiting ws o name)
    else
      match value with
      | some _ => .error (.surplusValue name)
      | none => .ok (.settled (ws.add o ""))

def splitValue (word : List Char) : List Char × Option (List Char) :=
  match word.dropWhile (· != '=') with
  | [] => (word, none)
  | _ :: v => (word.takeWhile (· != '='), some v)

def readWord (specs : List OptionSpec) (word : String) (ws : Words) : Except UsageError Reading :=
  match word.toList with
  | ['-', '-'] => .ok .ends
  | '-' :: '-' :: _ =>
    let (name, value) := splitValue word.toList
    readLong specs (String.ofList name) (value.map String.ofList) ws
  | '-' :: c :: r => readShort specs (c :: r) ws
  | _ => .ok .argument

/-- Read words, of which the first is the value of an option that waits for one.  If options end at the
first argument, what follows is taken as arguments. -/
def readWords (specs : List OptionSpec) (mixed : Bool) :
    Option (OptionSpec × String) → List String → Words → Except UsageError Words
  | none, [], ws => .ok ws
  | some (_, name), [], _ => .error (.noValue name)
  | some (o, _), v :: r, ws => readWords specs mixed none r (ws.add o v)
  | none, word :: r, ws =>
    match readWord specs word ws with
    | .error e => .error e
    | .ok .ends => .ok { ws with arguments := ws.arguments ++ r }
    | .ok .argument =>
      let ws := { ws with arguments := ws.arguments ++ [word] }
      if mixed then readWords specs mixed none r ws
      else .ok { ws with arguments := ws.arguments ++ r }
    | .ok (.settled ws) => readWords specs mixed none r ws
    | .ok (.waiting ws o name) => readWords specs mixed (some (o, name)) r ws

def checkValue (w : World) (o : OptionSpec) (v : String) : Except (Fault UsageError) Unit :=
  match o.kind with
  | .flag => .ok ()
  | .text => .ok ()
  | .oneOf choices =>
    if choices.contains v then .ok () else .error (.refused (.notOneOf o v choices))
  | .int => if (Text.readInt? v).isSome then .ok () else .error (.refused (.notAnInt o v))
  | .directory =>
    match w.stat v with
    | .error .badValue => .error (.misfit .badValue)
    | .error _ => .error (.refused (.missing o "Directory" v))
    | .ok (.file _) => .error (.refused (.isFile o v))
    | .ok _ => .ok ()
  | .file =>
    match w.stat v with
    | .error .badValue => .error (.misfit .badValue)
    | .error _ => .error (.refused (.missing o "File" v))
    | .ok (.dir _) => .error (.refused (.isDirectory o v))
    | .ok _ => .ok ()

def checkValues (w : World) (specs : List OptionSpec) :
    Fields (List String) → Except (Fault UsageError) Unit
  | [] => .ok ()
  | (long, vs) :: r => do
    match specs.find? fun o => o.long = long with
    | some o => checkValue w o (vs.getLastD "")
    | none => .ok ()
    checkValues w specs r

/-- Read and check the words after the name of a command that takes at most `n` arguments. -/
def readCommand (w : World) (specs : List OptionSpec) (n : Nat) (words : List String) :
    Except (Fault UsageError) Words := do
  let ws ← Fault.refuse (readWords specs true none words {})
  checkValues w specs ws.values
  if n < ws.arguments.length then .error (.refused (.surplus (ws.arguments.drop n))) else .ok ws

end ShapeSearch.CommandLine
