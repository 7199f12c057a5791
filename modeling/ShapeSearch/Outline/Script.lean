import ShapeSearch.Export
import ShapeSearch.Outline.Braces
import ShapeSearch.Pattern.Search

/-!
# Outlines of JavaScript and TypeScript files

`scriptOutline` finds declarations and exports by patterns and matching braces, without parsing: comments
are removed, then classes, functions and variables are collected, then every form of export is noted in
a fixed order, and each distinct export becomes an entry.
-/

namespace ShapeSearch.Outline

open Pattern

/-! ## Patterns -/

/-- Comments; two slashes after a colon or a backslash start none. -/
def commentPattern : Compiled :=
  Pattern.fixed r"/\*.*?\*/|(?<![:\\])//[^\n]*" { dotAll := true }

def classPattern : Compiled :=
  Pattern.fixed (r"(?P<export>\bexport\s+(?P<default>default\s+)?)?(?:declare\s+)?(?:abstract\s+)?" ++
    r"\bclass\s+(?P<name>[A-Za-z_$][\w$]*)(?:\s*<[^>\x7b]*>)?" ++
    r"(?:\s+extends\s+(?P<extends>[A-Za-z_$][\w$]*(?:\.[A-Za-z_$][\w$]*)*))?[^\x7b]*\x7b") {}

def functionPattern : Compiled :=
  Pattern.fixed (r"(?P<export>\bexport\s+(?P<default>default\s+)?)?(?:async\s+)?" ++
    r"\bfunction\b\s*\*?\s*(?P<name>[A-Za-z_$][\w$]*)\s*[<(]") {}

def variablePattern : Compiled :=
  Pattern.fixed (r"(?P<export>\bexport\s+)?\b(?:const|let|var)\s+(?P<name>[A-Za-z_$][\w$]*)" ++
    r"(?:\s*:\s*[^=;\n]+)?\s*=\s*(?P<value>[^;\n]*)") {}

def arrowPattern : Compiled :=
  Pattern.fixed
    (r"^(?:async\s*)?(?:function\b|\([^)]*\)\s*(?::[^=]+)?=>|[A-Za-z_$][\w$]*\s*=>)") {}

def exportDefaultPattern : Compiled :=
  Pattern.fixed r"\bexport\s+default\s+(?P<name>[A-Za-z_$][\w$]*)\s*;?\s*$" { multiline := true }

def exportListPattern : Compiled :=
  Pattern.fixed r"\bexport\s*\x7b(?P<body>[^\x7d]*)\x7d" {}

def moduleExportsPattern : Compiled :=
  Pattern.fixed r"\bmodule\.exports\s*=\s*(?P<value>[A-Za-z_$][\w$]*|\x7b)" {}

def exportsAssignPattern : Compiled :=
  Pattern.fixed
    (r"\b(?:module\.)?exports\.(?P<name>[A-Za-z_$][\w$]*)\s*=\s*(?P<value>[A-Za-z_$][\w$]*)?") {}

def methodPattern : Compiled :=
  Pattern.fixed (r"(?:^|[;\x7d\n])\s*(?P<mods>(?:(?:static|async|get|set|public|private|protected|" ++
    r"readonly|override|abstract)\s+)*)\*?\s*(?P<name>#?[A-Za-z_$][\w$]*)\s*(?:<[^>(]*>)?\s*\(") {}

def fieldPattern : Compiled :=
  Pattern.fixed
    (r"(?:^|[;\x7d\n])\s*(?:(?:static|public|private|protected|readonly|declare|override)\s+)*" ++
    r"(?P<name>#?[A-Za-z_$][\w$]*)\s*[?!]?\s*(?::[^=;\n(]+)?(?:=|;|\n)") {}

def memberAssignPattern : Compiled :=
  Pattern.fixed r"\bthis\.(?P<name>#?[A-Za-z_$][\w$]*)\s*=(?!=)" {}

def objectKeyPattern : Compiled :=
  Pattern.fixed
    r"^(?:async\s+)?([A-Za-z_$][\w$]*)\s*(?::\s*([A-Za-z_$][\w$]*)\s*$)?" {}

def objectMemberPattern : Compiled :=
  Pattern.fixed r"^(?:async\s+)?([A-Za-z_$][\w$]*)\s*(\(|:\s*(.*))?" { dotAll := true }

def scriptKeywords : List String :=
  ["if", "for", "while", "switch", "catch", "return", "function", "constructor", "super", "new",
    "typeof", "await", "yield", "else", "do", "try"]

/-! ## Members -/

def addName (xs : List String) (n : String) : List String :=
  if xs.contains n then xs else xs ++ [n]

def isVisible (n : String) : Bool :=
  !n.startsWith "#"

/-- The methods and the accessor properties of a class, from the top level of its body. -/
def classMethods (top : List Char) : List String × List String :=
  (methodPattern.findAll top).foldl (fun (methods, properties) m =>
    let n := (m.named? "name").getD ""
    if scriptKeywords.contains n || !isVisible n then (methods, properties)
    else
      let mods := Text.words ((m.named? "mods").getD "")
      if mods.contains "get" || mods.contains "set" then (methods, addName properties n)
      else (addName methods n, properties)) ([], [])

def classFields (top : List Char) (methods properties : List String) : List String :=
  (fieldPattern.findAll top).foldl (fun properties m =>
    let n := (m.named? "name").getD ""
    if scriptKeywords.contains n || !isVisible n || methods.contains n then properties
    else addName properties n) properties

/-- The members assigned from inside a class, after the properties already known. -/
def assignedMembers (body : List Char) (methods properties : List String) : List String :=
  (memberAssignPattern.findAll body).foldl (fun properties m =>
    let n := (m.named? "name").getD ""
    if !isVisible n || methods.contains n then properties else addName properties n) properties

def lastPart (s : String) : String :=
  String.ofList (s.toList.reverse.takeWhile (· ≠ '.')).reverse

def describeClass (name : String) (base : Option String) (body : List Char) : ExportInfo :=
  let top := topLevel body
  let members := classMethods top
  let properties := assignedMembers body members.1 (classFields top members.1 members.2)
  { name := some name, kind := "class", methods := members.1, properties, base := base.map lastPart }

def objectKeys (body : List Char) : List (String × Option String) :=
  (Text.splitOnChar ',' body).filterMap fun part =>
    (objectKeyPattern.matchAt false (.start (Text.trimChars part))).map fun m =>
      ((m.group? 1).getD "", m.group? 2)

def objectMembers (body : List Char) : List (String × Bool) :=
  (Text.splitOnChar ',' body).filterMap fun part =>
    (objectMemberPattern.matchAt false (.start (Text.trimChars part))).map fun m =>
      let key := (m.group? 1).getD ""
      if m.group? 2 == some "(" then (key, true)
      else
        match m.span? 3 with
        | some v => (key, (arrowPattern.matchAt false (.start (Text.trimChars v.chars))).isSome)
        | none => (key, false)

/-- What the value of a variable looks like; `source` is the text from the value on. -/
def describeValue (name : String) (value : List Char) (source : List Char) : ExportInfo :=
  let value := Text.trimChars value
  if (arrowPattern.matchAt false (.start value)).isSome then
    { name := some name, kind := "function" }
  else if value.head? == some '{' then
    let opened := source.dropWhile (· ≠ '{')
    let members := objectMembers (topLevel (bracedBody opened))
    { name := some name, kind := "object",
      methods := (members.filter (·.2)).map (·.1),
      properties := (members.filter (!·.2)).map (·.1) }
  else if "class".toList.isPrefixOf value then { name := some name, kind := "class" }
  else { name := some name, kind := "object" }

/-! ## Declarations and exports -/

/-- An export that was noted: the local name, and how it is reached. -/
abbrev Noted := String × ExportAccess

/-- What is known after reading some of the declarations. -/
structure Declared where
  infos : Fields ExportInfo := []
  exports : List Noted := []

def noteExport (m : Match) (name : String) (exports : List Noted) : List Noted :=
  match m.named? "export" with
  | none => exports
  | some e =>
    if e = "" then exports
    else
      match m.named? "default" with
      | some d =>
        if d = "" then exports ++ [(name, ⟨.named, some name⟩)]
        else exports ++ [(name, ⟨.default, none⟩)]
      | none => exports ++ [(name, ⟨.named, some name⟩)]

def declaredName (m : Match) : String :=
  (m.named? "name").getD ""

/-- Add a class; it replaces an earlier declaration of the same name. -/
def addClass (d : Declared) (m : Match) : Declared :=
  let name := declaredName m
  { infos := d.infos.put name (describeClass name (m.named? "extends") (bracedBody m.fromLast))
    exports := noteExport m name d.exports }

/-- Add a function; a name that is declared keeps its declaration. -/
def addFunction (d : Declared) (m : Match) : Declared :=
  let name := declaredName m
  { infos := d.infos.putNew name { name := some name, kind := "function" }
    exports := noteExport m name d.exports }

def describeVariable (m : Match) : ExportInfo :=
  match m.namedSpan? "value" with
  | some s => describeValue (declaredName m) s.chars s.start.after
  | none => describeValue (declaredName m) [] []

/-- Add a variable; a name that is declared is passed over. -/
def addVariable (d : Declared) (m : Match) : Declared :=
  let name := declaredName m
  if d.infos.has name then d
  else
    { infos := d.infos ++ [(name, describeVariable m)]
      exports := if (m.named? "export").any (· ≠ "")
        then d.exports ++ [(name, ⟨.named, some name⟩)] else d.exports }

/-- The text before and after the first ` as `; without one all is before. -/
def splitAs : List Char → List Char × List Char
  | [] => ([], [])
  | c :: r =>
    if " as ".toList.isPrefixOf (c :: r) then ([], (c :: r).drop 4)
    else
      let (a, b) := splitAs r
      (c :: a, b)

def listedExports (body : List Char) : List Noted :=
  (Text.splitOnChar ',' body).filterMap fun part =>
    let (a, b) := splitAs (Text.trimChars part)
    let name := String.ofList (Text.trimChars a)
    let renamed := String.ofList (Text.trimChars b)
    let shown := if renamed = "" then name else renamed
    if name = "" then none
    else if shown = "default" then some (name, ⟨.default, none⟩)
    else some (name, ⟨.named, some shown⟩)

def assignedExports (m : Match) : List Noted :=
  let value := (m.named? "value").getD ""
  if value.toList == ['{'] then
    (objectKeys (topLevel (bracedBody m.fromLast))).map fun (key, name) =>
      (match name with
        | some n => if n = "" then key else n
        | none => key, ⟨.named, some key⟩)
  else [(value, ⟨.direct, none⟩)]

/-- All exports of a text without comments, in the order in which the forms are looked for. -/
def noted (source : List Char) (d : Declared) : List Noted :=
  d.exports ++
    (exportDefaultPattern.findAll source).map (fun m =>
      ((m.named? "name").getD "", ⟨.default, none⟩)) ++
    (exportListPattern.findAll source).flatMap (fun m =>
      listedExports ((m.namedSpan? "body").map Span.chars |>.getD [])) ++
    (moduleExportsPattern.findAll source).flatMap assignedExports ++
    (exportsAssignPattern.findAll source).map fun m =>
      let name := (m.named? "name").getD ""
      let value := (m.named? "value").getD ""
      (if value = "" then name else value, ⟨.named, some name⟩)

def entryOf (infos : Fields ExportInfo) (n : Noted) : ExportEntry :=
  { exportedName := if n.2.type = .named then n.2.name else some n.1
    access := n.2
    info := (infos.get? n.1).getD { name := some n.1, kind := "unknown" } }

/-- The declarations of a text without comments: its classes, then its functions, then its variables. -/
def declared (source : List Char) : Declared :=
  let classes := (classPattern.findAll source).foldl addClass {}
  let functions := (functionPattern.findAll source).foldl addFunction classes
  (variablePattern.findAll source).foldl addVariable functions

def withoutComments (text : List Char) : List Char :=
  commentPattern.replaceAll (fun _ => []) text

def scriptOutline (text : String) : ExportMetadata :=
  let source := withoutComments text.toList
  let d := declared source
  (noted source d).eraseDups.map (entryOf d.infos)

end ShapeSearch.Outline
