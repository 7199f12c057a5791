import ShapeSearch.Json.Reader
import ShapeSearch.Outline.Module
import ShapeSearch.Outline.Script
import ShapeSearch.Settings.Lookup
import ShapeSearch.Text.ShellWords
import ShapeSearch.World

/-!
# Reading the exports of files

The extractor of a file follows from its extension: one set for the extension, else the parser command of
its language, else the outline that is built in for the language.
-/

namespace ShapeSearch

inductive Extractor where
  | python
  | javascript
  | typescript
  | command (argv : List Json) (timeoutMs : Json) (language : String)

namespace Extractor

def language : Extractor → String
  | .python => "python"
  | .javascript => "javascript"
  | .typescript => "typescript"
  | .command _ _ l => l

def builtin? (language : String) : Option Extractor :=
  match language with
  | "python" => some .python
  | "javascript" => some .javascript
  | "typescript" => some .typescript
  | _ => none

def argvOf : Json → Except Misfit (List Json)
  | .str line =>
    match Text.shellWords? line with
    | some ws => .ok (ws.map .str)
    | none => .error .badValue
  | v => v.iterate

def ofCommand (command timeoutMs : Json) (language : String) : Except Misfit Extractor := do
  .ok (.command (← argvOf command) timeoutMs language)

def ofLanguage (s : Settings) (language : String) : Except Misfit (Option Extractor) := do
  let parser ← s.parserOf language
  match parser.get? "command" with
  | some c =>
    if c.isTruthy then
      .ok (some (← ofCommand c ((parser.get? "timeout").getD (.ofInt 5000)) language))
    else .ok (builtin? language)
  | none => .ok (builtin? language)

def forPath (s : Settings) (overrides : Fields Extractor) (path : String) :
    Except Misfit (Option Extractor) := do
  let extension := Text.lower (Path.extension path)
  match overrides.get? extension with
  | some e => .ok (some e)
  | none =>
    match ← s.languageFor extension with
    | none => .ok none
    | some l => ofLanguage s l

def wordsOf : List Json → Except Misfit (List String)
  | [] => .ok []
  | .str w :: r =>
    if w.toList.contains '\x00' then .error .badValue else do .ok (w :: (← wordsOf r))
  | _ :: _ => .error .wrongKind

def readResult (fileName : String) (r : Command.Result) :
    Except (Fault ExtractionError) ExportMetadata :=
  if r.status ≠ 0 then
    .error (.refused (.exited r.status fileName
      (String.ofList ((Text.trimChars r.errors.toList).take 200))))
  else
    match Json.parse (if r.output = "" then "\x7b\x7d" else r.output).toList with
    | .ok (some v) => Fault.lift (ExportMetadata.ofJson v)
    | .ok none => .error (.refused (.notStructured fileName))
    | .error m => .error (.misfit m)

/-- Run a parser command on a file; no command gets less than a millisecond. -/
def runCommand (w : World) (argv : List Json) (timeoutMs : Json)
    (text fileName : String) : Except (Fault ExtractionError) ExportMetadata := do
  let timeout ← match timeoutMs.numeric? with
    | some t => .ok (t.maxFirst (.int 1))
    | none => .error (.misfit .wrongKind)
  let _ ← Fault.lift timeout.toFloat
  let words ← Fault.lift (wordsOf (argv ++ [.str fileName]))
  match ← Fault.lift (w.run words text timeout) with
  | .notStarted => .error (.refused (.notStarted (words.headD "")))
  | .timedOut => .error (.refused (.timedOut fileName))
  | .finished r => readResult fileName r

def extract (e : Extractor) (w : World) (text fileName : String) :
    Except (Fault ExtractionError) ExportMetadata :=
  match e with
  | .python =>
    match Outline.moduleOutline text fileName with
    | .ok m => .ok m
    | .error .invalid => .error (.refused (.unparsable fileName))
    | .error .tooHigh => .error (.misfit .tooDeep)
    | .error .tooInvolved => .error (.misfit .tooComplex)
  | .javascript => .ok (Outline.scriptOutline text)
  | .typescript => .ok (Outline.scriptOutline text)
  | .command argv timeoutMs _ => runCommand w argv timeoutMs text fileName

end Extractor

end ShapeSearch
