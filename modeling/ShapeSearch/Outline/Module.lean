import ShapeSearch.Export
import ShapeSearch.Path
import ShapeSearch.Source.Grammar

/-!
# Outlines of Python files

`moduleOutline` parses a file and describes its classes, functions and module-level objects, then the
file itself.  A list named `__all__` says which names are public; without one, names that start with an
underscore are private.
-/

namespace ShapeSearch.Outline

open Source (Expr Stmt)

def nameOf? : Expr → Option String
  | .name id => some id
  | _ => none

def textOf? : Expr → Option String
  | .text s => some s
  | _ => none

def itemsOf? : Expr → Option (List Expr)
  | .list items => some items
  | .tuple items => some items
  | _ => none

def publicNames? : List Stmt → Option (List String)
  | [] => none
  | .assign targets value :: r =>
    if targets.any (nameOf? · == some "__all__") then
      match itemsOf? value with
      | some items => some (items.filterMap textOf?)
      | none => publicNames? r
    else publicNames? r
  | _ :: r => publicNames? r

def isPublic (listed : Option (List String)) (name : String) : Bool :=
  name ≠ "" &&
    match listed with
    | some names => names.contains name
    | none => !name.startsWith "_"

def addPublic (xs : List String) (n : String) : List String :=
  if n.startsWith "_" || xs.contains n then xs else xs ++ [n]

/-- The name that a decorator goes by: the last one of a dotted name. -/
def decoratorName : Expr → String
  | .name id => id
  | .attribute _ attr => attr
  | _ => ""

def makesProperty (decorators : List Expr) : Bool :=
  decorators.any fun d => decoratorName d == "property" || decoratorName d == "cached_property"

def selfMember? : Expr → Option String
  | .attribute (.name "self") attr => some attr
  | _ => none

def targetsOf : Stmt → List Expr
  | .assign targets _ => targets
  | .annotated target _ => [target]
  | .augmented target => [target]
  | _ => []

def assignedIn (method : Stmt) : List String :=
  method.visit.flatMap fun s => (targetsOf s).filterMap selfMember?

/-- The members of a class: its methods, and its properties. -/
structure Members where
  methods : List String := []
  properties : List String := []

def addMember (m : Members) (child : Stmt) : Members :=
  match child with
  | .functionDef name decorators _ =>
    let own : Members :=
      if makesProperty decorators then { m with properties := addPublic m.properties name }
      else { m with methods := addPublic m.methods name }
    { own with properties := (assignedIn child).foldl addPublic own.properties }
  | .assign targets _ =>
    { m with properties := (targets.filterMap nameOf?).foldl addPublic m.properties }
  | .annotated (.name id) _ => { m with properties := addPublic m.properties id }
  | _ => m

def firstBase? : List Expr → Option String
  | .name id :: _ => some id
  | .attribute _ attr :: _ => some attr
  | _ => none

def describeClassDef (name : String) (bases : List Expr) (body : List Stmt) : ExportInfo :=
  let m := body.foldl addMember {}
  { name := some name, kind := "class", methods := m.methods, properties := m.properties,
    base := firstBase? bases }

/-- What an assigned value looks like, if it is worth a description. -/
def describeAssigned (names : List String) (value : Option Expr) : Option ExportInfo :=
  match names, value with
  | name :: _, some value =>
    if name.startsWith "__" then none
    else
      match value with
      | .mapping keys =>
        some { name := some name, kind := "object", properties := keys.filterMap textOf? }
      | .call _ => some { name := some name, kind := "object" }
      | .function => some { name := some name, kind := "function" }
      | _ => none
  | _, _ => none

def describe : Stmt → Option ExportInfo
  | .classDef name bases body => some (describeClassDef name bases body)
  | .functionDef name _ _ => some { name := some name, kind := "function" }
  | .assign targets value => describeAssigned (targets.filterMap nameOf?) (some value)
  | .annotated target value => describeAssigned ([target].filterMap nameOf?) value
  | _ => none

def declaredEntries (body : List Stmt) : List ExportEntry :=
  let listed := publicNames? body
  (body.filterMap describe).filterMap fun info =>
    match info.name with
    | some name =>
      if isPublic listed name then
        some { exportedName := info.name, access := ⟨.named, info.name⟩, info }
      else none
    | none => none

/-- The names of those entries that are functions, or that are not. -/
def namesOf (entries : List ExportEntry) (functions : Bool) : List String :=
  (entries.filter fun e => (e.info.kind == "function") == functions).filterMap (·.info.name)

def fileEntry (fileName : String) (entries : List ExportEntry) : ExportEntry :=
  { exportedName := none
    access := {}
    info := {
      name := some (Path.stem (Path.baseName fileName))
      kind := "module"
      methods := namesOf entries true
      properties := namesOf entries false } }

def moduleOutline (text fileName : String) : Except Source.Problem ExportMetadata :=
  (Source.parse text).map fun body =>
    let entries := declaredEntries body
    entries ++ [fileEntry fileName entries]

end ShapeSearch.Outline
