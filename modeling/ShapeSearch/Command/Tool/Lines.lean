import ShapeSearch.Command.Tool.Basic
import ShapeSearch.Command.Wide

/-!
# Programs that pick and count lines
-/

namespace ShapeSearch.Command.Tool

def hint (r : Request) : Bytes :=
  "Try '".toList ++ r.name ++ " --help' for more information.".toList

/-- The factor that a letter after a number stands for. -/
def unitFactor? (s : Bytes) : Option Nat :=
  match String.ofList s with
  | "" => some 1
  | "b" => some 512
  | "kB" => some 1000
  | "k" => some 1024
  | "K" => some 1024
  | "KiB" => some 1024
  | "MB" => some 1000000
  | "M" => some 1048576
  | "m" => some 1048576
  | "MiB" => some 1048576
  | "GB" => some 1000000000
  | "G" => some 1073741824
  | _ => none

def count? (s : Bytes) : Option Nat :=
  let digits := s.takeWhile Char.isDigit
  if digits.isEmpty then none
  else (unitFactor? (s.dropWhile Char.isDigit)).map (Bytes.digitsValue digits * ·)

def blockSize : Nat := 8192

/-- How many bytes are read when a given number of them is needed. -/
def wholeBlocks (n : Nat) : Nat := (n + blockSize - 1) / blockSize * blockSize

inductive Cut where
  | lines (n : Nat)
  | bytes (n : Nat)
  /-- all but the last lines, or from a line on -/
  | linesOther (n : Nat)
  | bytesOther (n : Nat)

def firstLines (n : Nat) (bs : Bytes) : Bytes := ((fullLines bs).take n).flatten

def Cut.start (c : Cut) (bs : Bytes) : Bytes :=
  match c with
  | .lines n => firstLines n bs
  | .bytes n => bs.take n
  | .linesOther n =>
    let ls := fullLines bs
    (ls.take (ls.length - n)).flatten
  | .bytesOther n => bs.take (bs.length - n)

def Cut.finish (c : Cut) (bs : Bytes) : Bytes :=
  match c with
  | .lines n =>
    let ls := fullLines bs
    (ls.drop (ls.length - n)).flatten
  | .bytes n => bs.drop (bs.length - n)
  | .linesOther n => ((fullLines bs).drop (n - 1)).flatten
  | .bytesOther n => bs.drop (n - 1)

/-- Parts of several files, each under its name. -/
def printParts (r : Request) (a : Arguments) (part : Bytes → Bytes) : Reply :=
  let parts := inputsOf r a.operands
  let titled := (1 < parts.length || a.has 'v') && !a.has 'q'
  let title (n : Bytes) (first : Bool) : Bytes :=
    let shown := if n == ['-'] then "standard input".toList else n
    if titled then (if first then [] else ['\n']) ++ "==> ".toList ++ shown ++ " <==\n".toList else []
  let (printed, _) := parts.foldl (fun ((out, first) : List (Stream × Bytes) × Bool) (n, content) =>
    match content with
    | .ok bs => (out ++ [(.output, title n first ++ part bs)], false)
    | .error .isDirectory =>
      (out ++ [(.output, title n first), (.errors, r.message ("error reading ".toList ++ quotedName n ++
        ": Is a directory\n".toList))], false)
    | .error e =>
      (out ++ [(.errors, r.message ("cannot open ".toList ++ quotedName n ++ " for reading: ".toList ++
        (Files.faultText e).toList ++ ['\n']))], first)) ([], true)
  { status := if parts.any (fun p => p.2.toOption.isNone) then 1 else 0
    printed, rest := restAfter r a.operands }

/-- The part that options of `head` or `tail` ask for; `sign` marks the other end. -/
def cutOf (sign plain : Char) (a : Arguments) : Except Bytes Cut :=
  match a.options.reverse.find? fun p => p.1 == 'n' || p.1 == 'c' with
  | none => .ok (.lines 10)
  | some (c, v) =>
    let what := if c == 'n' then "invalid number of lines: " else "invalid number of bytes: "
    let (other, digits) := match v with
      | s :: rest => if s == sign then (true, rest) else if s == plain then (false, rest) else (false, v)
      | [] => (false, v)
    match count? digits with
    | none => .error (what.toList ++ shownWord (if other then digits else v))
    | some n =>
      .ok (match c == 'n', other with
        | true, false => .lines n
        | true, true => .linesOther n
        | false, false => .bytes n
        | false, true => .bytesOther n)

/-- A number directly after a sign, as an option for lines. -/
def oldStyle (args : List Bytes) : List Bytes :=
  match args with
  | ('-' :: d :: ds) :: r =>
    if d.isDigit && ds.all Char.isDigit then ['-', 'n'] :: (d :: ds) :: r else args
  | _ => args

def trailingOption (message : Bytes) : Bytes :=
  match message.reverse with
  | '\'' :: d :: '\'' :: _ => if d.isDigit then "invalid trailing option -- ".toList ++ [d] else message
  | _ => message

def head (r : Request) : Reply :=
  let r := { r with args := oldStyle r.args }
  match r.arguments [⟨'n', "lines", true⟩, ⟨'c', "bytes", true⟩, ⟨'q', "quiet", false⟩,
      ⟨'q', "silent", false⟩, ⟨'v', "verbose", false⟩, ⟨'z', "zero-terminated", false⟩] with
  | .error e => r.failWithHint (trailingOption e)
  | .ok a =>
    match cutOf '-' '+' a with
    | .error e => r.fail e
    | .ok c =>
      let reply := printParts r a c.start
      let rest := match c with
        | .lines n =>
          let used := firstLines n r.input
          if n == 0 then r.input
          else if (Bytes.lines used).length < n then []
          else r.input.drop (wholeBlocks used.length)
        | .bytes n => r.input.drop n
        | _ => []
      { reply with rest := if readsInput a.operands then rest else r.input }

def tail (r : Request) : Reply :=
  let r := { r with args := match r.args with
    | ('+' :: ds) :: more => if !ds.isEmpty && ds.all Char.isDigit then ['-', 'n'] :: ('+' :: ds) :: more
      else ('+' :: ds) :: more
    | args => oldStyle args }
  match r.arguments [⟨'n', "lines", true⟩, ⟨'c', "bytes", true⟩, ⟨'q', "quiet", false⟩,
      ⟨'q', "silent", false⟩, ⟨'v', "verbose", false⟩, ⟨'z', "zero-terminated", false⟩] with
  | .error e => r.failWithHint e
  | .ok a =>
    match cutOf '+' '-' a with
    | .error e => r.fail e
    | .ok c => printParts r a c.finish

structure Counts where
  lines : Nat := 0
  words : Nat := 0
  chars : Nat := 0
  bytes : Nat := 0
  width : Nat := 0

def isSpaceChar (c : Char) : Bool := c == ' ' || ('\t' ≤ c && c ≤ '\r')

def wordCount (cs : List Char) : Nat :=
  (cs.foldl (fun ((n, inside) : Nat × Bool) c =>
    if isSpaceChar c then (n, false) else (if inside then n else n + 1, true)) (0, false)).1

def Counts.of (bs : Bytes) : Counts :=
  let cs := widen bs
  { lines := bs.count '\n'
    words := wordCount bs
    chars := (cs.filter fun c => c.toNat < strayRow).length
    bytes := bs.length
    width := (Bytes.lines bs).foldl (fun w l => max w (widen l).length) 0 }

def wc (r : Request) : Reply :=
  match r.arguments [⟨'c', "bytes", false⟩, ⟨'m', "chars", false⟩, ⟨'l', "lines", false⟩,
      ⟨'L', "max-line-length", false⟩, ⟨'w', "words", false⟩] with
  | .error e => r.failWithHint e
  | .ok a =>
    let all := !a.has 'c' && !a.has 'm' && !a.has 'l' && !a.has 'L' && !a.has 'w'
    let fields (c : Counts) : List Nat :=
      (if all || a.has 'l' then [c.lines] else []) ++ (if all || a.has 'w' then [c.words] else []) ++
        (if a.has 'm' then [c.chars] else []) ++ (if all || a.has 'c' then [c.bytes] else []) ++
        (if a.has 'L' then [c.width] else [])
    let parts := inputsOf r a.operands
    let counted := parts.map fun (n, content) =>
      match content with
      | .ok bs => (n, Except.ok (Counts.of bs))
      | .error e => (n, Except.error e)
    let good := counted.filterMap fun (_, c) => c.toOption
    let total := good.foldl (fun t c => {
      lines := t.lines + c.lines, words := t.words + c.words, chars := t.chars + c.chars
      bytes := t.bytes + c.bytes, width := max t.width c.width }) ({} : Counts)
    let single := (fields {}).length == 1 && parts.length == 1
    let fromInput := readsInput a.operands ||
      counted.any fun (_, c) => match c with
        | .error .isDirectory => true
        | _ => false
    let width := if single then 1 else if fromInput then 7 else (Bytes.ofNat total.bytes).length
    let line (c : Counts) (name : Option Bytes) : Bytes :=
      Bytes.joined [' '] ((fields c).map fun n =>
        let d := Bytes.ofNat n
        List.replicate (width - d.length) ' ' ++ d) ++
        (match name with
          | some n => ' ' :: n
          | none => []) ++ ['\n']
    let printed := counted.flatMap fun (n, c) =>
      match c with
      | .ok c => [(Stream.output, line c (if a.operands.isEmpty then none else some n))]
      | .error .isDirectory => [
          (Stream.errors, r.message (shownName n ++ ": Is a directory\n".toList)),
          (Stream.output, line {} (some n))]
      | .error e => [(Stream.errors, r.message (shownName n ++ ": ".toList ++ (Files.faultText e).toList ++ ['\n']))]
    let sum := if 1 < parts.length then [(Stream.output, line total (some "total".toList))] else []
    { status := if good.length < parts.length then 1 else 0
      printed := printed ++ sum, rest := restAfter r a.operands }

/-- The fields of a line between separators, empty ones included. -/
def fieldsBetween (sep : Char) (l : Bytes) : List Bytes :=
  go [] l
where
  go : Bytes → Bytes → List Bytes
    | cur, [] => [cur.reverse]
    | cur, x :: r => if x == sep then cur.reverse :: go [] r else go (x :: cur) r

def ranges? (s : Bytes) : Option (List (Nat × Option Nat)) :=
  (fieldsBetween ',' s).mapM fun part =>
    match part with
    | '-' :: r => do
      let n ← Bytes.nat? r
      some (1, some n)
    | _ => do
      let first ← Bytes.nat? (part.takeWhile Char.isDigit)
      if first == 0 then none
      else
        match part.dropWhile Char.isDigit with
        | [] => some (first, some first)
        | ['-'] => some (first, none)
        | '-' :: r => do
          let last ← Bytes.nat? r
          if last < first then none else some (first, some last)
        | _ => none

/-- Whether a range among others ends before it starts. -/
def isDecreasing (s : Bytes) : Bool :=
  (fieldsBetween ',' s).any fun part =>
    match Bytes.nat? (part.takeWhile Char.isDigit), part.dropWhile Char.isDigit with
    | some first, '-' :: r => (Bytes.nat? r).any (· < first)
    | _, _ => false

def inRanges (rs : List (Nat × Option Nat)) (n : Nat) : Bool :=
  rs.any fun (first, last) => first ≤ n && last.all (n ≤ ·)

/-- The elements of a list whose places, counted from one, pass a test. -/
def atPlaces {α : Type} (p : Nat → Bool) (xs : List α) : List α :=
  (xs.zipIdx 1).filterMap fun (x, i) => if p i then some x else none

def cut (r : Request) : Reply :=
  match r.arguments [⟨'b', "bytes", true⟩, ⟨'c', "characters", true⟩, ⟨'d', "delimiter", true⟩,
      ⟨'f', "fields", true⟩, ⟨'n', "", false⟩, ⟨'s', "only-delimited", false⟩, ⟨'C', "complement", false⟩,
      ⟨'O', "output-delimiter", true⟩] with
  | .error e => r.failWithHint e
  | .ok a =>
    let lists := a.options.filter fun p => p.1 == 'b' || p.1 == 'c' || p.1 == 'f'
    match lists with
    | [] => r.failWithHint "you must specify a list of bytes, characters, or fields".toList
    | [(kind, list)] =>
      let delimiter := (a.get? 'd').getD ['\t']
      if a.has 'd' && kind != 'f' then
        r.failWithHint "an input delimiter may be specified only when operating on fields".toList
      else if 1 < delimiter.length then r.failWithHint "the delimiter must be a single character".toList
      else
        match ranges? list with
        | none =>
          let what := if kind == 'f' then "field" else "byte/character"
          if list.any fun c => !c.isDigit && c != ',' && c != '-' then
            r.failWithHint ("invalid ".toList ++ what.toList ++
              (if kind == 'f' then " value " else " position ").toList ++
              shownWord (list.dropWhile fun c => c.isDigit || c == ',' || c == '-'))
          else if isDecreasing list then r.failWithHint "invalid decreasing range".toList
          else if kind == 'f' then r.failWithHint "fields are numbered from 1".toList
          else r.failWithHint "byte/character positions are numbered from 1".toList
        | some rs =>
          let wanted (n : Nat) : Bool := inRanges rs n != a.has 'C'
          let c := delimiter.headD '\x00'
          let joiner := (a.get? 'O').getD delimiter
          let change (bs : Bytes) : Bytes :=
            Bytes.ofLines ((Bytes.lines bs).filterMap fun l =>
              if kind == 'f' then
                if l.contains c then some (Bytes.joined joiner (atPlaces wanted (fieldsBetween c l)))
                else if a.has 's' then none
                else some l
              else some (atPlaces wanted l))
          printInputs r a.operands change
    | _ => r.failWithHint "only one list may be specified".toList

end ShapeSearch.Command.Tool
