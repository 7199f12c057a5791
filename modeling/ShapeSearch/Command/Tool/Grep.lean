import ShapeSearch.Command.Tool.Lines
import ShapeSearch.Command.Tool.Regex

/-!
# Finding lines

`grep` prints the lines of files in which one of some patterns is found, or what it is told to say about
them.
-/

namespace ShapeSearch.Command.Tool

structure Search where
  patterns : List Regex
  ignoreCase : Bool
  wholeWord : Bool
  wholeLine : Bool

/-- Whether a match is one of whole words or lines, if it has to be. -/
def Search.accepts (s : Search) (text : Array Char) (start stop : Nat) : Bool :=
  if s.wholeLine then start == 0 && stop == text.size
  else if s.wholeWord then
    !(if start == 0 then none else text[start - 1]?).any isWordChar && !(text[stop]?).any isWordChar
  else true

def Search.endAt? (s : Search) (text : Array Char) (start : Nat) : Option Nat :=
  (s.patterns.flatMap fun r => r.advance s.ignoreCase text [⟨start, []⟩]).foldl (fun best p =>
    if s.accepts text start p.pos && best.all (· < p.pos) then some p.pos else best) none

/-- The first match at one of `n` places. -/
def Search.findFrom? (s : Search) (text : Array Char) : Nat → Nat → Option (Nat × Nat)
  | 0, _ => none
  | n + 1, start =>
    match s.endAt? text start with
    | some stop => some (start, stop)
    | none => s.findFrom? text n (start + 1)

def Search.find? (s : Search) (text : Array Char) (start : Nat) : Option (Nat × Nat) :=
  s.findFrom? text (text.size + 1 - start) start

def Search.findAll (s : Search) (text : Array Char) : Nat → Nat → List (Nat × Nat)
  | 0, _ => []
  | fuel + 1, start =>
    match s.find? text start with
    | none => []
    | some (a, b) =>
      if a == b then s.findAll text fuel (a + 1) else (a, b) :: s.findAll text fuel b

def literalRegex (s : List Char) : Regex :=
  s.foldl (fun r c => .seq r (.one c)) .empty

/-- The lines that are printed around selected ones, as numbers; and whether each is selected. -/
def withContext (before after : Nat) (selected : Array Bool) : List (Nat × Bool) :=
  let isSelected (i : Nat) : Bool := (selected[i]?).getD false
  (List.range selected.size).filterMap fun i =>
    if isSelected i then some (i, true)
    else if (List.range before).any (fun k => isSelected (i + k + 1)) ||
        (List.range (min after i)).any (fun k => isSelected (i - k - 1)) then some (i, false)
    else none

def contextCount (a : Arguments) (letter : Char) : Option Nat :=
  (a.get? letter).bind Bytes.nat?

/-- What is wrong with the number in an option, if something is. -/
def contextFault? (a : Arguments) (letter : Char) : Option Bytes :=
  match a.get? letter with
  | none => none
  | some v => if (Bytes.nat? v).isSome then none else some (v ++ ": invalid context length argument".toList)

def grepOptions : List OptionSpec :=
  [⟨'E', "extended-regexp", false⟩, ⟨'F', "fixed-strings", false⟩, ⟨'G', "basic-regexp", false⟩,
    ⟨'P', "perl-regexp", false⟩,
    ⟨'e', "regexp", true⟩, ⟨'f', "file", true⟩, ⟨'i', "ignore-case", false⟩, ⟨'y', "", false⟩,
    ⟨'v', "invert-match", false⟩, ⟨'w', "word-regexp", false⟩, ⟨'x', "line-regexp", false⟩,
    ⟨'c', "count", false⟩, ⟨'l', "files-with-matches", false⟩, ⟨'L', "files-without-match", false⟩,
    ⟨'m', "max-count", true⟩, ⟨'o', "only-matching", false⟩, ⟨'q', "quiet", false⟩, ⟨'q', "silent", false⟩,
    ⟨'s', "no-messages", false⟩, ⟨'b', "byte-offset", false⟩, ⟨'H', "with-filename", false⟩,
    ⟨'h', "no-filename", false⟩, ⟨'n', "line-number", false⟩, ⟨'A', "after-context", true⟩,
    ⟨'B', "before-context", true⟩, ⟨'C', "context", true⟩, ⟨'a', "text", false⟩, ⟨'z', "null-data", false⟩]

def grepFile (a : Arguments) (s : Search) (before after : Nat) (context : Bool) (start : Bytes)
    (name : Bytes) (bs : Bytes) : Bytes × Bool :=
  let lines := Bytes.lines bs
  let texts := lines.map fun l => (widen l).toArray
  let isHit (t : Array Char) : Bool := (s.find? t 0).isSome != a.has 'v'
  let hits := (texts.zipIdx.filter fun p => isHit p.1).map (·.2)
  let limit := (a.get? 'm').bind Bytes.nat?
  let hits := match limit with
    | some n => hits.take n
    | none => hits
  let any := !hits.isEmpty
  let head (i : Nat) (sign : Char) : Bytes :=
    (if start.isEmpty then [] else start ++ [sign]) ++
      (if a.has 'n' then Bytes.ofNat (i + 1) ++ [sign] else [])
  let out :=
    if a.has 'q' then []
    else if a.has 'l' then if any then name ++ ['\n'] else []
    else if a.has 'L' then if any then [] else name ++ ['\n']
    else if a.has 'c' then (if start.isEmpty then [] else start ++ [':']) ++ Bytes.ofNat hits.length ++ ['\n']
    else if a.has 'o' then
      if a.has 'v' then []
      else
        let texts := texts.toArray
        hits.flatMap fun i =>
        let t := (texts[i]?).getD #[]
        (s.findAll t (t.size + 2) 0).flatMap fun (x, y) =>
          head i ':' ++ narrow (t.extract x y).toList ++ ['\n']
    else
      let lines := lines.toArray
      let selected := hits.foldl (fun (a : Array Bool) i => a.setIfInBounds i true) (Array.replicate lines.size false)
      let shown := withContext before after selected
      let shown : List (Nat × Bool) := match limit, hits.getLast? with
        | some _, some last => shown.filter fun p => p.1 ≤ last + after
        | some _, none => []
        | none, _ => shown
      (shown.foldl (fun ((out, last) : List Bytes × Option Nat) (i, selected) =>
        let gap := context && last.any (· + 1 < i)
        (((if gap then "--\n".toList else []) ++ head i (if selected then ':' else '-') ++
          (lines[i]?).getD [] ++ ['\n']) :: out, some i)) ([], none)).1.reverse.flatten
  (out, any)

/-- Find lines; `extended` and `fixed` say how patterns are read unless options do. -/
def grep (extended fixed : Bool) (r : Request) : Reply :=
  let args := r.args.map fun w =>
    match w with
    | '-' :: d :: ds => if d.isDigit && ds.all Char.isDigit then '-' :: 'C' :: d :: ds else w
    | w => w
  match { r with args }.arguments grepOptions with
  | .error e =>
    .failed 2 (r.message e ++ "\nUsage: ".toList ++ r.name ++ " [OPTION]... PATTERNS [FILE]...\n".toList ++ hint r)
  | .ok a =>
    let given := (a.options.filter fun p => p.1 == 'e').map (·.2)
    let fromFiles := (a.options.filter fun p => p.1 == 'f').map fun p =>
      (p.2, if p.2 == ['-'] then .ok r.input else Files.read r.world p.2)
    match fromFiles.find? fun p => p.2.toOption.isNone with
    | some (n, .error e) => r.fail (n ++ ": ".toList ++ (Files.faultText e).toList) 2
    | _ =>
      let explicit := a.has 'e' || a.has 'f'
      let badContext := ['A', 'B', 'C'].findSome? fun c => (contextFault? a c)
      if badContext.isSome then r.fail (badContext.getD []) 2
      else if !explicit && a.operands.isEmpty then
        .failed 2 ("Usage: ".toList ++ r.name ++ " [OPTION]... PATTERNS [FILE]...\n".toList ++ hint r)
      else
        let patternLines (p : Bytes) : List Bytes := if p.isEmpty then [[]] else fieldsBetween '\n' p
        let texts := if explicit then given.flatMap patternLines ++
            fromFiles.flatMap fun p => Bytes.lines (p.2.toOption.getD [])
          else patternLines (a.operands.headD [])
        let operands := if explicit then a.operands else a.operands.tail
        let style := (a.options.reverse.find? fun p => "EFGP".toList.contains p.1).map (·.1)
        let fixed := match style with
          | some c => c == 'F'
          | none => fixed
        let extended := match style with
          | some c => c == 'E' || c == 'P'
          | none => extended
        let read (t : Bytes) : Except RegexError Regex :=
          if fixed then .ok (literalRegex (widen t))
          else Regex.parse { extended, looseBraces := extended } (widen t)
        match texts.mapM read with
        | .error e => r.fail e.message.toList 2
        | .ok patterns =>
          let after := contextCount a 'A'
          let before := contextCount a 'B'
          let both := contextCount a 'C'
          let s : Search := {
            patterns, ignoreCase := a.has 'i' || a.has 'y', wholeWord := a.has 'w', wholeLine := a.has 'x' }
          let parts := inputsOf r operands
          let named := (1 < parts.length || a.has 'H') && !a.has 'h'
          let context := after.isSome || before.isSome || both.isSome
          let results := parts.map fun (n, content) =>
            let shown := if n == ['-'] then "(standard input)".toList else n
            let look (bs : Bytes) : Bytes × Bool :=
              grepFile a s ((before.or both).getD 0) ((after.or both).getD 0) context
                (if named then shown else []) shown bs
            match content with
            | .ok bs =>
              let (out, any) := look bs
              ([(Stream.output, out)], any, false)
            | .error e =>
              let m := r.message (n ++ ": ".toList ++ (Files.faultText e).toList ++ ['\n'])
              let out := if e = OpenFault.isDirectory then (look []).1 else []
              ([(Stream.errors, if a.has 's' then [] else m), (.output, out)], false, true)
          let any := results.any fun p => p.2.1
          let failed := results.any fun p => p.2.2
          { status := if failed && !(a.has 'q' && any) then 2 else if any then 0 else 1
            printed := results.flatMap (·.1), rest := restAfter r operands }

end ShapeSearch.Command.Tool
