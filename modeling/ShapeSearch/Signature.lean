import ShapeSearch.Digest
import ShapeSearch.Failure
import ShapeSearch.Pattern.Search

/-!
# Signatures

A signature describes the entity to look for.  `Signature.normalize` reads one from a name or a table
of fields: texts are trimmed and empty ones dropped, lists lose blanks and repetitions, and a name
between slashes is a pattern.  A signature that asks for nothing is refused.

`toJson` writes a signature back, and `key` is the digest of that form, with or without the root that
was searched.
-/

namespace ShapeSearch

inductive TargetType where
  | classDef
  | function
  | module
  | object
deriving DecidableEq

def TargetType.text : TargetType → String
  | .classDef => "class"
  | .function => "function"
  | .module => "module"
  | .object => "object"

def TargetType.ofText? (s : String) : Option TargetType :=
  if s = "class" then some .classDef
  else if s = "function" then some .function
  else if s = "module" then some .module
  else if s = "object" then some .object
  else none

inductive NameQuery where
  | exact (name : String)
  | pattern (p : Pattern.Compiled)

/-- A pattern between slashes, followed by the modes in force. -/
def Pattern.Compiled.literal (p : Pattern.Compiled) : String :=
  "/" ++ p.source ++ "/" ++ (if p.flags.ignoreCase then "i" else "") ++
    (if p.flags.multiline then "m" else "") ++ (if p.flags.dotAll then "s" else "")

/-- Same written form and same modes. -/
def Pattern.Compiled.same (p q : Pattern.Compiled) : Bool :=
  p.source == q.source && p.flags == q.flags

def NameQuery.text : NameQuery → String
  | .exact n => n
  | .pattern p => p.literal

def NameQuery.same : NameQuery → NameQuery → Bool
  | .exact a, .exact b => a == b
  | .pattern p, .pattern q => p.same q
  | _, _ => false

structure Signature where
  name : Option NameQuery := none
  type : Option TargetType := none
  exports : Option String := none
  methods : List String := []
  properties : List String := []
  base : Option String := none
  instanceOf : Option String := none
  language : Option String := none
  /-- fields that are not known here, kept for scorers -/
  extra : Fields Json := []

namespace Signature

def knownFields : List String :=
  ["name", "type", "exports", "methods", "properties", "extends", "instanceof", "language"]

def pattern? (sig : Signature) : Option Pattern.Compiled :=
  match sig.name with
  | some (.pattern p) => some p
  | _ => none

def targetName (sig : Signature) : Option String :=
  match sig.name with
  | some (.exact n) => some n
  | _ => sig.exports

def textField (k : String) : Option String → Fields Json
  | some s => [(k, .str s)]
  | none => []

def listField (k : String) (xs : List String) : Fields Json :=
  if xs.isEmpty then [] else [(k, .ofTexts xs)]

def toFields (sig : Signature) : Fields Json :=
  textField "name" (sig.name.map NameQuery.text) ++
    textField "type" (sig.type.map TargetType.text) ++
    textField "exports" sig.exports ++
    textField "extends" sig.base ++
    textField "instanceof" sig.instanceOf ++
    textField "language" sig.language ++
    listField "methods" sig.methods ++
    listField "properties" sig.properties

def toJson (sig : Signature) : Json := .obj sig.toFields

/-- What a key is the digest of. -/
def canonical (sig : Signature) (root : Option String) : String :=
  let payload := match root with
    | none => sig.toJson
    | some r => .obj [("root", .str r), ("signature", sig.toJson)]
  payload.sorted.write .compact

def key (sig : Signature) (root : Option String) : String :=
  Digest.digestHex (sig.canonical root)

/-- Same constraints; unknown fields do not count. -/
def same (a b : Signature) : Bool :=
  (match a.name, b.name with
    | none, none => true
    | some x, some y => x.same y
    | _, _ => false) &&
  a.type == b.type && a.exports == b.exports && a.methods == b.methods &&
  a.properties == b.properties && a.base == b.base && a.instanceOf == b.instanceOf &&
  a.language == b.language

/-! ## Reading -/

def cleanText (field : String) : Option Json → Except SignatureError (Option String)
  | none => .ok none
  | some .null => .ok none
  | some (.str s) =>
    let t := Text.trim s
    .ok (if t = "" then none else some t)
  | some v => .error (.notAText field v)

/-- Trimmed texts without blanks and repetitions, after those already taken.  What is no text is shown. -/
def cleanItems (limits : Json.Limits) (field : String) :
    List Json → List String → Except (Fault SignatureError) (List String)
  | [], out => .ok out
  | .str s :: r, out =>
    let t := Text.trim s
    cleanItems limits field r (if t = "" || out.contains t then out else out ++ [t])
  | v :: _, _ => .error (.showing limits v (.itemNotAText field v))

/-- A list of trimmed texts; a single text is a list of one. -/
def cleanList (limits : Json.Limits) (field : String) :
    Option Json → Except (Fault SignatureError) (List String)
  | none => .ok []
  | some .null => .ok []
  | some (.str s) => cleanItems limits field [.str s] []
  | some (.arr xs) => cleanItems limits field xs []
  | some _ => .error (.refused (.notAList field))

/-- The last slash of a text splits it: what is before, and what is after. -/
def splitLastSlash (s : List Char) : Option (List Char × List Char) :=
  let r := s.reverse
  match r.dropWhile (· ≠ '/') with
  | _ :: before => some (before.reverse, (r.takeWhile (· ≠ '/')).reverse)
  | [] => none

/-- A name between slashes with its mode letters: the pattern and the letters. -/
def slashed? (s : String) : Option (String × List Char) :=
  match s.toList with
  | '/' :: r =>
    match splitLastSlash r with
    | some (body, letters) =>
      if body.isEmpty || !letters.all (fun c => c == 'i' || c == 'm' || c == 's') then none
      else some (String.ofList body, letters)
    | none => none
  | _ => none

def modesOf (letters : List Char) : Pattern.Flags :=
  { ignoreCase := letters.contains 'i', multiline := letters.contains 'm',
    dotAll := letters.contains 's' }

/-- A name, read as a pattern if it stands between slashes. -/
def readName (name : String) : Except (Fault SignatureError) NameQuery :=
  match slashed? name with
  | none => .ok (.exact name)
  | some (body, letters) =>
    match Pattern.compile body (modesOf letters) with
    | .ok p => .ok (.pattern p)
    | .error .malformed => .error (.refused (.badPattern name))
    | .error (.misfit m) => .error (.misfit m)

def isConstrained (sig : Signature) : Bool :=
  sig.name.isSome || sig.type.isSome || sig.exports.isSome || !sig.methods.isEmpty ||
    !sig.properties.isEmpty || sig.base.isSome || sig.instanceOf.isSome

def readType (v : Option Json) : Except SignatureError (Option TargetType) := do
  match ← cleanText "type" v with
  | none => .ok none
  | some t =>
    let t := Text.lower t
    match TargetType.ofText? t with
    | some k => .ok (some k)
    | none => .error (.unknownType t)

def ofFields (limits : Json.Limits) (given : Option NameQuery) (fs : Fields Json) :
    Except (Fault SignatureError) Signature := do
  let type ← Fault.refuse (readType (fs.get? "type"))
  let language ← Fault.refuse (cleanText "language" (fs.get? "language"))
  let name ← match given with
    | some n => .ok (some n)
    | none =>
      match ← Fault.refuse (cleanText "name" (fs.get? "name")) with
      | none => .ok none
      | some n => (readName n).map some
  let exports ← Fault.refuse (cleanText "exports" (fs.get? "exports"))
  let methods ← cleanList limits "methods" (fs.get? "methods")
  let properties ← cleanList limits "properties" (fs.get? "properties")
  let base ← Fault.refuse (cleanText "extends" (fs.get? "extends"))
  let instanceOf ← Fault.refuse (cleanText "instanceof" (fs.get? "instanceof"))
  let sig : Signature :=
    { name, type, exports, methods, properties, base, instanceOf,
      language := language.map Text.lower,
      extra := fs.filter fun p => !knownFields.contains p.1 }
  if sig.isConstrained then .ok sig else .error (.refused .unconstrained)

def normalize (v : Json) (limits : Json.Limits := .usual) : Except (Fault SignatureError) Signature :=
  match v with
  | .str s => ofFields limits none [("name", .str s)]
  | .obj fs => ofFields limits none fs
  | v => .error (.refused (.notATable v))

def renormalize (sig : Signature) (limits : Json.Limits := .usual) :
    Except (Fault SignatureError) Signature :=
  let fs : Fields Json := Fields.putAll sig.toFields sig.extra
  match sig.pattern? with
  | some p => ofFields limits (some (.pattern p)) (fs.erase "name")
  | none => ofFields limits none fs

end Signature

end ShapeSearch
