import ShapeSearch.Export
import ShapeSearch.Signature

/-!
# Exports against signatures

`hasShape` says whether an export has the shape that a signature asks for.  `mismatch` names in words the
first constraint that an export fails; it asks for one thing more, the `instanceof` of the signature.  To find
this out a pattern is looked for in the names of the export, which fails if a match is broken (`checkShape`,
`explain`).
-/

namespace ShapeSearch.Matching

/-- Whether an entity of a kind can stand where a type is asked for. -/
def kindFits (kind : String) : TargetType → Bool
  | .module => kind == "module" || kind == "object"
  | t => kind == t.text

def typeFits (e : ExportEntry) (sig : Signature) : Bool :=
  sig.type.all (kindFits e.info.kind)

def exportFits (e : ExportEntry) (sig : Signature) : Bool :=
  sig.exports.all fun x => !(e.access.type == .named) || e.access.name == some x

/-- Whether one of the names of an export is the one asked for, whatever the case. -/
def nameFits (e : ExportEntry) (sig : Signature) : Bool :=
  match sig.name with
  | none => true
  | some (.pattern p) => e.names.any p.occursIn
  | some (.exact n) => e.names.any fun m => Text.lower m == Text.lower n

def firstMatch (p : Pattern.Compiled) : List String → Except Misfit Bool
  | [] => .ok false
  | n :: r => do if ← p.matchesIn n then .ok true else firstMatch p r

/-- Look for the pattern of a signature in the names of an export, if it comes to that. -/
def searchNames (reached : Bool) (e : ExportEntry) (sig : Signature) : Except Misfit Unit :=
  match sig.pattern? with
  | some p => if reached then (firstMatch p e.names).map fun _ => () else .ok ()
  | none => .ok ()

def absent (asked there : List String) : List String :=
  asked.filter fun m => !there.contains m

def methodsFit (e : ExportEntry) (sig : Signature) : Bool :=
  (absent sig.methods e.info.methods).isEmpty

def propertiesFit (e : ExportEntry) (sig : Signature) : Bool :=
  (absent sig.properties e.info.properties).isEmpty

def baseFits (e : ExportEntry) (sig : Signature) : Bool :=
  sig.base.all fun b => e.info.base == some b

def instanceFits (e : ExportEntry) (sig : Signature) : Bool :=
  sig.instanceOf.all fun i => e.info.name == some i || e.info.base == some i

def hasShape (e : ExportEntry) (sig : Signature) : Bool :=
  typeFits e sig && exportFits e sig && nameFits e sig && methodsFit e sig && propertiesFit e sig &&
    baseFits e sig

/-- Find out whether an export has the shape that a signature asks for.  The names are looked at after the
kind and the way the export is reached. -/
def checkShape (e : ExportEntry) (sig : Signature) : Except Misfit Bool := do
  searchNames (typeFits e sig && exportFits e sig) e sig
  .ok (hasShape e sig)

def nonEmpty : Option String → Option String
  | some s => if s = "" then none else some s
  | none => none

def label (e : ExportEntry) : String :=
  ((nonEmpty e.info.name).orElse fun _ => nonEmpty e.exportedName).getD "export"

def mismatch (e : ExportEntry) (sig : Signature) : Option String :=
  if !typeFits e sig then
    some (label e ++ " is a " ++ e.info.kind ++ ", expected " ++ (sig.type.map TargetType.text).getD "")
  else if !exportFits e sig then
    some ("exported as '" ++ e.access.name.getD "None" ++ "', expected '" ++ sig.exports.getD "" ++ "'")
  else if !nameFits e sig then some ("name '" ++ label e ++ "' does not match")
  else if !methodsFit e sig then
    some (label e ++ " is missing methods: " ++ ", ".intercalate (absent sig.methods e.info.methods))
  else if !propertiesFit e sig then
    some (label e ++ " is missing properties: " ++
      ", ".intercalate (absent sig.properties e.info.properties))
  else if !baseFits e sig then
    some (label e ++ " extends " ++ (nonEmpty e.info.base).getD "nothing" ++ ", expected " ++
      sig.base.getD "")
  else if !instanceFits e sig then
    some (label e ++ " is not an instance of " ++ sig.instanceOf.getD "")
  else none

/-- Find out the first constraint that an export fails. -/
def explain (e : ExportEntry) (sig : Signature) : Except Misfit (Option String) := do
  searchNames (typeFits e sig && exportFits e sig) e sig
  .ok (mismatch e sig)

def select (sig : Signature) : ExportMetadata → Except Misfit (Option ExportEntry)
  | [] => .ok none
  | e :: r => do if ← checkShape e sig then .ok (some e) else select sig r

end ShapeSearch.Matching
