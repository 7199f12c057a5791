import ShapeSearch.Export
import ShapeSearch.Json.Reader
import ShapeSearch.Pattern.Search
import ShapeSearch.Text.Blank
import ShapeSearch.World

/-!
# Import aliases

A TypeScript or JavaScript project can give its files names to import them by.  The rules stand in
`tsconfig.json` or `jsconfig.json`: a base directory, and patterns of aliases with the patterns of files
they stand for.  `aliasesFor` goes back from a file to its aliases.
-/

namespace ShapeSearch

namespace Tolerant

open Pattern

/-- Comments, and texts in quotes, which are kept. -/
def comments : Compiled :=
  Pattern.fixed r"(\x22(?:\\.|[^\x22\\])*\x22)|/\*.*?\*/|//[^\n]*" { dotAll := true }

def trailingCommas : Compiled :=
  Pattern.fixed r",\s*([\x7d\]])" {}

def firstGroup (m : Match) : List Char :=
  ((m.span? 1).map Span.chars).getD []

def plainText (text : String) : List Char :=
  trailingCommas.replaceAll firstGroup (comments.replaceAll firstGroup text.toList)

/-- Read a document that may have comments and commas before closing brackets; nothing if it cannot be
read, unless it is nested too deep. -/
def parse (text : String) : Except Misfit (Option Json) :=
  match Json.parse (plainText text) with
  | .error .badValue => .ok none
  | r => r

end Tolerant

/-- A rule: files that start with a path, or are at it, can be imported by an alias. -/
structure AliasEntry where
  aliasStart : String
  aliasOpen : Bool
  targetStart : String
  targetOpen : Bool

structure Aliases where
  configPath : String
  baseUrl : String
  entries : List AliasEntry

namespace Aliases

/-- A path without its extension, and without the `.d` of a declaration file. -/
def bare (path : String) : String :=
  let s := (Path.stem path).toList
  if ['.', 'd'].isSuffixOf s then String.ofList (s.take (s.length - 2)) else String.ofList s

def dropSlashes (s : String) : String :=
  String.ofList (s.toList.reverse.dropWhile (· == '/')).reverse

def entryOf (baseUrl name target : String) : AliasEntry :=
  let isOpen := target.toList.contains '*'
  let place := Path.clean (Path.join baseUrl (Text.dropChar '*' target))
  let place :=
    if ['/', '*'].isSuffixOf target.toList || target = "*" then dropSlashes place ++ "/" else place
  { aliasStart := Text.dropChar '*' name
    aliasOpen := name.toList.contains '*'
    targetStart := if isOpen then place else bare place
    targetOpen := isOpen }

def entriesOf (baseUrl : String) : List (String × Json) → Except Misfit (List AliasEntry)
  | [] => .ok []
  | (name, targets) :: r => do
    let ts ← Json.iterateOr (some targets)
    let rest ← entriesOf baseUrl r
    .ok ((ts.filterMap Json.text?).map (entryOf baseUrl name) ++ rest)

def ofDocument (w : World) (root configPath : String) (doc : Json) :
    Except Misfit (Option Aliases) := do
  match doc.field? "compilerOptions" with
  | some (.obj options) =>
    let base ← match Fields.get? options "baseUrl" with
      | none => .ok "."
      | some (.str b) => .ok b
      | some _ => .error .wrongKind
    let baseUrl ← w.realPath (Path.join root base)
    let table := match Fields.get? options "paths" with
      | some (.obj fs) => fs
      | _ => []
    .ok (some { configPath, baseUrl, entries := ← entriesOf baseUrl table })
  | _ => .ok none

def configNames : List String := ["tsconfig.json", "jsconfig.json"]

def firstFile (w : World) (root : String) : List String → Except Misfit (Option (String × File))
  | [] => .ok none
  | name :: r => do
    match ← w.probe (Path.join root name) with
    | some (.file f) => .ok (some (name, f))
    | _ => firstFile w root r

/-- The rules of a project; nothing if it has none that can be read. -/
def ofRoot (w : World) (root : String) : Except Misfit (Option Aliases) := do
  let root ← w.realPath root
  match ← firstFile w root configNames with
  | none => .ok none
  | some (name, f) =>
    match f.lines with
    | none => .ok none
    | some text =>
      match ← Tolerant.parse text with
      | none => .ok none
      | some doc => ofDocument w root (Path.join root name) doc

def aliasOf (e : AliasEntry) (target : String) : Option String :=
  if e.targetOpen then
    let start := e.targetStart.toList
    if start.isPrefixOf target.toList then
      some (if e.aliasOpen then e.aliasStart ++ String.ofList (target.toList.drop start.length)
        else e.aliasStart)
    else none
  else if target = e.targetStart then some e.aliasStart
  else none

def aliasesFor (a : Aliases) (w : World) (path : String) : Except Misfit (List String) := do
  let target := bare (← w.realPath path)
  .ok ((a.entries.filterMap (aliasOf · target)).foldl (fun out s =>
    if s = "" || out.contains s then out else out ++ [s]) [])

/-- How a file is imported from the base directory; nothing if it is outside. -/
def baseImport (a : Aliases) (w : World) (path : String) : Except Misfit (Option String) :=
  match w.realParts path with
  | .ok parts => .ok ((World.relativeTo (Path.components a.baseUrl) parts).map bare)
  | .error .badValue => .ok none
  | .error m => .error m

end Aliases

end ShapeSearch
