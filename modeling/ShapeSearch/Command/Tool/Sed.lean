import ShapeSearch.Command.Tool.Lines
import ShapeSearch.Command.Tool.Regex

/-!
# Editing streams

A script is a list of commands, each for the lines that its addresses select.  Every line of the input goes
through all of them in turn, and is printed at the end unless told otherwise.
-/

namespace ShapeSearch.Command.Tool.Sed

inductive Address where
  | line (n : Nat)
  | last
  | step (first step : Nat)
  /-- a match; nothing stands for the last pattern used -/
  | found (pattern : Option (Regex × Bool))
  /-- a number of lines after the first address -/
  | offset (n : Nat)
  /-- up to the next multiple -/
  | multiple (n : Nat)

inductive CaseChange where
  | upper
  | lower
  | upperOne
  | lowerOne
  | stop

inductive Piece where
  | text (cs : List Char)
  | group (n : Nat)
  | change (c : CaseChange)

inductive Action where
  | substitute (pattern : Option (Regex × Bool)) (pieces : List Piece) (all : Bool) (nth : Nat) (print : Bool)
    (target : Option Bytes)
  | translate (pairs : List (Char × Char))
  | delete
  | deleteFirst
  | print
  | printFirst
  | next
  | appendNext
  | quit (status : Nat)
  | quitSilently (status : Nat)
  | hold
  | holdMore
  | get
  | getMore
  | exchange
  | number
  | append (text : Bytes)
  | insert (text : Bytes)
  | change (text : Bytes)
  | label (name : Bytes)
  | branch (name : Bytes)
  | branchIf (name : Bytes)
  | branchUnless (name : Bytes)
  | blockStart
  | blockEnd
  | zap
  | readFile (name : Bytes)
  | writeFile (name : Bytes)
  | nothing

structure Instruction where
  first : Option Address := none
  second : Option Address := none
  negated : Bool := false
  action : Action

/-- A mistake in a script: after how many characters, and what it is. -/
structure ScriptError where
  place : Nat
  message : Bytes

structure Reading where
  rest : List Char
  place : Nat := 0
  blocks : Nat := 0
  commands : List Instruction := []

abbrev Read := EStateM ScriptError Reading

def peek : Read (Option Char) := do pure (← EStateM.get).rest.head?

/-- Take the next character; the end counts as one too. -/
def take : Read (Option Char) := do
  let r ← EStateM.get
  match r.rest with
  | c :: rest =>
    EStateM.set { r with rest, place := r.place + 1 }
    pure (some c)
  | [] => pure none

def fail {α : Type} (message : String) : Read α := do
  throw ⟨(← EStateM.get).place, message.toList⟩

def skipBlanks : Read Unit := do
  let r ← EStateM.get
  let rest := r.rest.dropWhile fun c => c == ' ' || c == '\t'
  EStateM.set { r with rest, place := r.place + (r.rest.length - rest.length) }

def skipSeparators : Read Unit := do
  let r ← EStateM.get
  let rest := r.rest.dropWhile fun c => c == ' ' || c == '\t' || c == '\n' || c == ';'
  EStateM.set { r with rest, place := r.place + (r.rest.length - rest.length) }

def number : Read Nat := do
  let r ← EStateM.get
  let digits := r.rest.takeWhile Char.isDigit
  EStateM.set { r with rest := r.rest.drop digits.length, place := r.place + digits.length }
  pure (Bytes.digitsValue digits)

/-- The text up to a delimiter, which is taken; in brackets of a pattern it is a character like others. -/
def delimited (delimiter : Char) (isPattern : Bool) : Nat → Bool → List Char → Read (Option (List Char))
  | 0, _, _ => pure none
  | fuel + 1, inSet, out => do
    match ← take with
    | none => pure none
    | some '\\' =>
      match ← take with
      | none => pure none
      | some c =>
        if c == delimiter then
          delimited delimiter isPattern fuel inSet (c :: out)
        else if c == 'n' && isPattern && inSet then delimited delimiter isPattern fuel inSet ('\n' :: out)
        else delimited delimiter isPattern fuel inSet (c :: '\\' :: out)
    | some c =>
      if c == delimiter && !inSet then pure (some out.reverse)
      else if c == '\n' && isPattern then pure none
      else
        let inSet := if !isPattern then false
          else if inSet then !(c == ']' && !(out.head? == some '[' ||
            (out.head? == some '^' && out.tail.head? == some '[') || out.head? == some ':'))
          else c == '['
        delimited delimiter isPattern fuel inSet (c :: out)

/-- The pattern that a text spells; nothing for the last pattern used. -/
def pattern (extended ignoreCase : Bool) (s : List Char) : Read (Option (Regex × Bool)) := do
  if s.isEmpty then pure none
  else
    match Regex.parse { extended, controls := true } s with
    | .ok r => pure (some (r, ignoreCase))
    | .error e => fail e.message

def address (extended : Bool) : Read (Option Address) := do
  match ← peek with
  | some '$' =>
    let _ ← take
    pure (some .last)
  | some '/' =>
    let _ ← take
    found '/'
  | some '\\' =>
    let _ ← take
    match ← take with
    | some d => found d
    | none => fail "unexpected \x60,'"
  | some c =>
    if c.isDigit then
      let n ← number
      if (← peek) == some '~' then
        let _ ← take
        pure (some (.step n (← number)))
      else pure (some (.line n))
    else pure none
  | none => pure none
where
  found (delimiter : Char) : Read (Option Address) := do
    match ← delimited delimiter true ((← EStateM.get).rest.length + 1) false [] with
    | none => fail "unterminated address regex"
    | some s =>
      let ignoreCase := (← peek) == some 'I'
      if ignoreCase then
        let _ ← take
      pure (some (.found (← pattern extended ignoreCase s)))

/-- The second address, which may also count from the first. -/
def secondAddress (extended : Bool) : Read (Option Address) := do
  match ← peek with
  | some '+' =>
    let _ ← take
    pure (some (.offset (← number)))
  | some '~' =>
    let _ ← take
    pure (some (.multiple (← number)))
  | _ => address extended

def pieces : List Char → List Char → List Piece → List Piece
  | [], text, out => (if text.isEmpty then out else .text text.reverse :: out).reverse
  | '&' :: r, text, out => pieces r [] (.group 0 :: flush text out)
  | '\\' :: c :: r, text, out =>
    if c.isDigit then pieces r [] (.group (c.toNat - 48) :: flush text out)
    else
      match c with
      | 'n' => pieces r ('\n' :: text) out
      | 't' => pieces r ('\t' :: text) out
      | 'r' => pieces r ('\r' :: text) out
      | 'a' => pieces r ('\x07' :: text) out
      | 'f' => pieces r ('\x0c' :: text) out
      | 'v' => pieces r ('\x0b' :: text) out
      | 'U' => pieces r [] (.change .upper :: flush text out)
      | 'L' => pieces r [] (.change .lower :: flush text out)
      | 'u' => pieces r [] (.change .upperOne :: flush text out)
      | 'l' => pieces r [] (.change .lowerOne :: flush text out)
      | 'E' => pieces r [] (.change .stop :: flush text out)
      | c => pieces r (c :: text) out
  | c :: r, text, out => pieces r (c :: text) out
where
  flush (text : List Char) (out : List Piece) : List Piece :=
    if text.isEmpty then out else .text text.reverse :: out

def groupCount : Regex → Nat
  | .group n body => max n (groupCount body)
  | .seq a b => max (groupCount a) (groupCount b)
  | .alt a b => max (groupCount a) (groupCount b)
  | .times body _ _ => groupCount body
  | _ => 0

structure SubstituteOptions where
  all : Bool := false
  nth : Nat := 1
  print : Bool := false
  ignoreCase : Bool := false
  target : Option Bytes := none

def restOfLine : Read (List Char) := do
  let r ← EStateM.get
  let text := r.rest.takeWhile (· != '\n')
  EStateM.set { r with rest := r.rest.drop text.length, place := r.place + text.length }
  pure text

def substituteOptions : Nat → SubstituteOptions → Read SubstituteOptions
  | 0, o => pure o
  | fuel + 1, o => do
    match ← peek with
    | none => pure o
    | some 'g' =>
      let _ ← take
      substituteOptions fuel { o with all := true }
    | some 'p' =>
      let _ ← take
      substituteOptions fuel { o with print := true }
    | some 'i' =>
      let _ ← take
      substituteOptions fuel { o with ignoreCase := true }
    | some 'I' =>
      let _ ← take
      substituteOptions fuel { o with ignoreCase := true }
    | some 'm' =>
      let _ ← take
      substituteOptions fuel o
    | some 'M' =>
      let _ ← take
      substituteOptions fuel o
    | some 'w' =>
      let _ ← take
      skipBlanks
      let name ← restOfLine
      pure { o with target := some (narrow name) }
    | some c =>
      if c.isDigit then
        let n ← number
        if n == 0 then fail "number option to \x60s' command may not be zero"
        else substituteOptions fuel { o with nth := n }
      else if c == '\n' || c == ';' then
        let _ ← take
        pure o
      else if c == '}' || c == '#' then pure o
      else if c == ' ' || c == '\t' then
        let _ ← take
        substituteOptions fuel o
      else
        let _ ← take
        fail "unknown option to \x60s'"

/-- What has to follow a command: the end of a line, a semicolon, a brace or a comment. -/
def endCommand : Read Unit := do
  skipBlanks
  match ← peek with
  | none => pure ()
  | some '\n' =>
    let _ ← take
  | some ';' =>
    let _ ← take
  | some '}' => pure ()
  | some '#' => pure ()
  | some _ =>
    let _ ← take
    fail "extra characters after command"

def labelName : Read Bytes := do
  skipBlanks
  let r ← EStateM.get
  let name := r.rest.takeWhile fun c => c != '\n' && c != ';'
  EStateM.set { r with rest := r.rest.drop name.length, place := r.place + name.length }
  pure (narrow (name.reverse.dropWhile (fun c => c == ' ' || c == '\t')).reverse)

/-- The lines of a text that is added, up to a line end without a backslash before it. -/
def addedText : Nat → List Char → Read (List Char)
  | 0, out => pure out.reverse
  | fuel + 1, out => do
    match ← take with
    | none => pure out.reverse
    | some '\n' => pure out.reverse
    | some '\\' =>
      match ← take with
      | none => pure out.reverse
      | some c => addedText fuel (c :: out)
    | some c => addedText fuel (c :: out)

def textArgument : Read Bytes := do
  skipBlanks
  match ← peek with
  | none => fail "expected \\ after \x60a', \x60c' or \x60i'"
  | some '\\' =>
    let _ ← take
    skipBlanks
    match ← peek with
    | some '\n' =>
      let _ ← take
      pure (narrow (← addedText ((← EStateM.get).rest.length + 1) []) ++ ['\n'])
    | none => fail "expected \\ after \x60a', \x60c' or \x60i'"
    | some _ => pure (narrow (← addedText ((← EStateM.get).rest.length + 1) []) ++ ['\n'])
  | some _ => pure (narrow (← addedText ((← EStateM.get).rest.length + 1) []) ++ ['\n'])

/-- Characters of a `y` command with their backslashes read. -/
def translated (delimiter : Char) : List Char → List Char
  | '\\' :: c :: r =>
    if c == 'n' then '\n' :: translated delimiter r
    else if c == '\\' || c == delimiter then c :: translated delimiter r
    else if c == 't' then '\t' :: translated delimiter r
    else '\\' :: c :: translated delimiter r
  | c :: r => c :: translated delimiter r
  | [] => []

def quitStatus : Read Nat := do
  skipBlanks
  match ← peek with
  | some c => if c.isDigit then number else pure 0
  | none => pure 0

/-- What a command does, after its letter. -/
def action (extended : Bool) (letter : Char) (addressed ranged : Bool) : Read Action := do
  let fuel := (← EStateM.get).rest.length + 1
  let simple (a : Action) : Read Action := do
    endCommand
    pure a
  match letter with
  | 's' =>
    match ← take with
    | none => fail "unterminated \x60s' command"
    | some d =>
      let some source ← delimited d true fuel false [] | fail "unterminated \x60s' command"
      let some target ← delimited d false fuel false [] | fail "unterminated \x60s' command"
      let o ← substituteOptions fuel {}
      let p ← pattern extended o.ignoreCase source
      let ps := pieces target [] []
      let most := ps.foldl (fun n x => match x with
        | .group k => max n k
        | _ => n) 0
      match p with
      | some (re, _) =>
        if groupCount re < most then
          fail ("invalid reference \\" ++ toString most ++ " on \x60s' command's RHS")
      | none => pure ()
      pure (.substitute p ps o.all o.nth o.print o.target)
  | 'y' =>
    match ← take with
    | none => fail "unterminated \x60y' command"
    | some d =>
      let some source ← delimited d false fuel false [] | fail "unterminated \x60y' command"
      let some target ← delimited d false fuel false [] | fail "unterminated \x60y' command"
      let a := translated d source
      let b := translated d target
      if a.length != b.length then fail "strings for \x60y' command are different lengths"
      else simple (.translate (a.zip b))
  | 'd' => simple .delete
  | 'D' => simple .deleteFirst
  | 'p' => simple .print
  | 'P' => simple .printFirst
  | 'n' => simple .next
  | 'N' => simple .appendNext
  | 'h' => simple .hold
  | 'H' => simple .holdMore
  | 'g' => simple .get
  | 'G' => simple .getMore
  | 'x' => simple .exchange
  | 'z' => simple .zap
  | '=' => simple .number
  | 'q' =>
    if ranged then fail "command only uses one address" else simple (.quit (← quitStatus))
  | 'Q' =>
    if ranged then fail "command only uses one address" else simple (.quitSilently (← quitStatus))
  | 'a' => pure (.append (← textArgument))
  | 'i' => pure (.insert (← textArgument))
  | 'c' => pure (.change (← textArgument))
  | ':' =>
    if addressed then fail ": doesn't want any addresses"
    else
      let name ← labelName
      if name.isEmpty then fail "\":\" lacks a label" else pure (.label name)
  | 'b' => pure (.branch (← labelName))
  | 't' => pure (.branchIf (← labelName))
  | 'T' => pure (.branchUnless (← labelName))
  | 'r' =>
    skipBlanks
    let name ← restOfLine
    if name.isEmpty then fail "missing filename in r/R/w/W commands" else pure (.readFile (narrow name))
  | 'w' =>
    skipBlanks
    let name ← restOfLine
    if name.isEmpty then fail "missing filename in r/R/w/W commands" else pure (.writeFile (narrow name))
  | '\x7b' =>
    modify fun r => { r with blocks := r.blocks + 1 }
    pure .blockStart
  | '\x7d' =>
    if (← EStateM.get).blocks == 0 then fail "unexpected \x60\x7d'"
    else if addressed then fail "\x7d doesn't want any addresses"
    else
      modify fun r => { r with blocks := r.blocks - 1 }
      simple .blockEnd
  | '#' =>
    if addressed then fail "comments don't accept any addresses"
    else
      let _ ← restOfLine
      pure .nothing
  | c => fail ("unknown command: \x60" ++ String.singleton c ++ "'")

def commands (extended : Bool) : Nat → Read Unit
  | 0 => pure ()
  | fuel + 1 => do
    skipSeparators
    match ← peek with
    | none => pure ()
    | some _ =>
      let first ← address extended
      let mut second : Option Address := none
      if first.isSome then
        skipBlanks
        if (← peek) == some ',' then
          let _ ← take
          skipBlanks
          second ← secondAddress extended
          if second.isNone then
            let _ ← take
            fail "unexpected \x60,'"
      skipBlanks
      let mut negated := false
      if (← peek) == some '!' then
        let _ ← take
        negated := true
        skipBlanks
      match ← take with
      | none => fail "missing command"
      | some '\n' => fail "missing command"
      | some letter =>
        let action ← action extended letter first.isSome second.isSome
        modify fun r => { r with commands := { first, second, negated, action } :: r.commands }
        commands extended fuel

def parse (extended : Bool) (script : List Char) : Except ScriptError (Array Instruction) :=
  match commands extended (script.length + 1) { rest := script } with
  | .ok _ r =>
    if r.blocks != 0 then .error ⟨0, "unmatched \x60\x7b'".toList⟩ else .ok r.commands.reverse.toArray
  | .error e _ => .error e

structure Editing where
  lines : List Bytes
  /-- whether the last of them has an end -/
  ended : Bool
  number : Nat := 0
  pattern : List Char := []
  held : List Char := []
  /-- what is printed, last first -/
  out : List Bytes := []
  /-- whether what is printed so far ends with a line end -/
  outEnded : Bool := true
  /-- what is printed at the end of the round -/
  appended : List Bytes := []
  substituted : Bool := false
  /-- for each command with two addresses that is in its range, the line it ends at, if known -/
  ranges : List (Nat × Option Nat) := []
  lastPattern : Option (Regex × Bool) := none
  world : World
  status : Nat := 0
  fault : Option String := none

namespace Editing

def emit (s : Editing) (bs : Bytes) : Editing :=
  let out := if s.outEnded then s.out else ['\n'] :: s.out
  { s with out := bs :: out, outEnded := true }

/-- Print a line; the last line has an end only if it had one. -/
def emitLine (s : Editing) (text : List Char) : Editing :=
  if s.lines.isEmpty && !s.ended then
    let s := s.emit (narrow text)
    { s with outEnded := false }
  else s.emit (narrow text ++ ['\n'])

def advance (s : Editing) (more : Bool) : Option Editing :=
  match s.lines with
  | [] => none
  | l :: r =>
    let text := widen l
    some { s with
      lines := r, number := s.number + 1
      pattern := if more then s.pattern ++ '\n' :: text else text }

/-- Print what is kept for the end of the round. -/
def flush (s : Editing) : Editing :=
  { s.appended.reverse.foldl emit s with appended := [] }

/-- The pattern of a command; an empty one is the last one used. -/
def resolve (s : Editing) (p : Option (Regex × Bool)) : Editing × Option (Regex × Bool) :=
  match p with
  | some x => ({ s with lastPattern := some x }, some x)
  | none =>
    match s.lastPattern with
    | some x => (s, some x)
    | none => ({ s with fault := some "no previous regular expression" }, none)

def selects (s : Editing) : Address → Editing × Bool
  | .line n => (s, s.number == n)
  | .last => (s, s.lines.isEmpty)
  | .step first step =>
    (s, if step == 0 then s.number == first
      else first ≤ s.number && (s.number - first) % step == 0)
  | .found p =>
    match s.resolve p with
    | (s, some (r, ignoreCase)) => (s, (r.search ignoreCase s.pattern.toArray 0).isSome)
    | (s, none) => (s, false)
  | .offset _ => (s, false)
  | .multiple _ => (s, false)

def leaveRange (s : Editing) (i : Nat) : Editing := { s with ranges := s.ranges.filter (·.1 != i) }

def applies (s : Editing) (i : Nat) (c : Instruction) : Editing × Bool :=
  match c.first, c.second with
  | none, _ => (s, true)
  | some a, none => s.selects a
  | some a, some b =>
    match s.ranges.find? (·.1 == i) with
    | some (_, some stop) =>
      if s.number < stop then (s, true)
      else if s.number == stop then (s.leaveRange i, true)
      else
        -- the range has been passed over
        let s := s.leaveRange i
        match b with
        | .line _ => start s a b
        | _ => (s, true)
    | some (_, none) =>
      match b with
      | .found _ =>
        let (s, hit) := s.selects b
        (if hit then s.leaveRange i else s, true)
      | .last => (if s.lines.isEmpty then s.leaveRange i else s, true)
      | _ => (s, true)
    | none => start s a b
where
  start (s : Editing) (a b : Address) : Editing × Bool :=
    let zero := match a with
      | .line 0 => s.number == 1
      | _ => false
    let (s, hit) := if zero then (s, true) else s.selects a
    if !hit then (s, false)
    else
      let keep (stop : Option Nat) : Editing := { s with ranges := (i, stop) :: s.ranges }
      match b with
      | .line n => if n ≤ s.number then (s, true) else (keep (some n), true)
      | .offset n => if n == 0 then (s, true) else (keep (some (s.number + n)), true)
      | .multiple n =>
        if n == 0 || s.number % n == 0 then (s, true) else (keep (some ((s.number / n + 1) * n)), true)
      | .last => if s.lines.isEmpty then (s, true) else (keep none, true)
      | .found _ =>
        if zero then
          let (s, ends) := s.selects b
          if ends then (s, true) else ({ s with ranges := (i, none) :: s.ranges }, true)
        else (keep none, true)
      | .step _ _ => (s, true)

end Editing

/-- Letters as changes of case say; `one` is for the next letter only. -/
def changeCase (all one : Option CaseChange) : List Char → List Char × Option CaseChange
  | [] => ([], one)
  | c :: r =>
    let each (c : Char) : Char := match all with
      | some .upper => c.toUpper
      | some .lower => c.toLower
      | _ => c
    let first := match one with
      | some .upperOne => c.toUpper
      | some .lowerOne => c.toLower
      | _ => each c
    (first :: r.map each, none)

def replacement (text : Array Char) (start : Nat) (p : Place) (ps : List Piece) : List Char :=
  (ps.foldl (fun ((out, all, one) : List Char × Option CaseChange × Option CaseChange) piece =>
    let add (cs : List Char) : List Char × Option CaseChange × Option CaseChange :=
      let (cs, one) := changeCase all one cs
      (out ++ cs, all, one)
    match piece with
    | .text cs => add cs
    | .group 0 => add (text.extract start p.pos).toList
    | .group n =>
      match p.groups.find? (·.1 == n) with
      | some (_, a, b) => add (text.extract a b).toList
      | none => add []
    | .change .upper => (out, some .upper, one)
    | .change .lower => (out, some .lower, one)
    | .change .stop => (out, none, none)
    | .change c => (out, all, some c)) ([], none, none)).1

/-- Replace matches in a text from a place on, after what is done so far, last first: the text, last first,
and whether something was replaced. -/
def substituteFrom (r : Regex) (ignoreCase : Bool) (ps : List Piece) (all : Bool) (nth : Nat)
    (text : Array Char) : Nat → Nat → Nat → Option Nat → List Char → Bool → List Char × Bool
  | 0, _, _, _, out, done => (out, done)
  | fuel + 1, pos, count, lastEnd, out, done =>
    let upTo (a b : Nat) (out : List Char) : List Char := (text.extract a b).toList.reverse ++ out
    match r.search ignoreCase text pos with
    | none => (upTo pos text.size out, done)
    | some (start, p) =>
      let out := upTo pos start out
      if p.pos == start && lastEnd == some start then
        -- an empty match right after another one does not count
        substituteFrom r ignoreCase ps all nth text fuel (start + 1) count none (upTo start (start + 1) out) done
      else
        let count := count + 1
        let hit := if all then nth ≤ count else count == nth
        let out := if hit then (replacement text start p ps).reverse ++ out else upTo start p.pos out
        let done := done || hit
        if hit && !all then (upTo p.pos text.size out, done)
        else if p.pos == start then
          substituteFrom r ignoreCase ps all nth text fuel (start + 1) count none (upTo start (start + 1) out) done
        else substituteFrom r ignoreCase ps all nth text fuel p.pos count (some p.pos) out done

inductive Step where
  | goto (i : Nat)
  | finish
  /-- with the next round, printing nothing -/
  | restart
  /-- with the next round, keeping the pattern space -/
  | restartKeeping
  | quit
  | quitSilently

/-- Where a label is; the end if it has no name. -/
def labelPlace (cs : Array Instruction) (name : Bytes) : Nat :=
  if name.isEmpty then cs.size
  else (cs.findIdx? fun c => match c.action with
    | .label n => n == name
    | _ => false).getD cs.size

/-- Where a block that starts at a command ends. -/
def blockEndAfter (cs : Array Instruction) : Nat → Nat → Nat → Nat
  | 0, i, _ => i
  | fuel + 1, i, depth =>
    match cs[i]? with
    | none => i
    | some c =>
      match c.action with
      | .blockStart => blockEndAfter cs fuel (i + 1) (depth + 1)
      | .blockEnd => if depth == 0 then i else blockEndAfter cs fuel (i + 1) (depth - 1)
      | _ => blockEndAfter cs fuel (i + 1) depth

def addToFile (s : Editing) (name bs : Bytes) : Editing :=
  if name == "/dev/stdout".toList then s.emit bs
  else
    let old := (Files.read s.world name).toOption.getD []
    match Files.write s.world name (old ++ bs) with
    | .ok world => { s with world }
    | .error _ => s

def perform (silent : Bool) (cs : Array Instruction) (i : Nat) (a : Action) (inRange : Bool) (s : Editing) :
    Editing × Step :=
  let on := Step.goto (i + 1)
  match a with
  | .substitute p ps all nth print target =>
    match s.resolve p with
    | (s, none) => (s, .quitSilently)
    | (s, some (r, ignoreCase)) =>
      let text := s.pattern.toArray
      let (new, done) := substituteFrom r ignoreCase ps all nth text (text.size + 2) 0 0 none [] false
      if done then
        let new := new.reverse
        let s := { s with pattern := new, substituted := true }
        let s := if print then s.emitLine new else s
        let s := match target with
          | some name => addToFile s name (narrow new ++ ['\n'])
          | none => s
        (s, on)
      else (s, on)
  | .translate pairs =>
    ({ s with pattern := s.pattern.map fun c => ((pairs.find? (·.1 == c)).map (·.2)).getD c }, on)
  | .delete => (s, .restart)
  | .deleteFirst =>
    if s.pattern.contains '\n' then
      ({ s with pattern := (s.pattern.dropWhile (· != '\n')).tail }, .restartKeeping)
    else (s, .restart)
  | .print => (s.emitLine s.pattern, on)
  | .printFirst => (s.emit (narrow (s.pattern.takeWhile (· != '\n')) ++ ['\n']), on)
  | .next =>
    if s.lines.isEmpty then (s, .quit)
    else
      let s := if silent then s else s.emitLine s.pattern
      (((s.flush).advance false).getD s, on)
  | .appendNext =>
    if s.lines.isEmpty then (s, .quit) else (((s.flush).advance true).getD s, on)
  | .quit n => ({ s with status := n }, .quit)
  | .quitSilently n => ({ s with status := n }, .quitSilently)
  | .hold => ({ s with held := s.pattern }, on)
  | .holdMore => ({ s with held := s.held ++ '\n' :: s.pattern }, on)
  | .get => ({ s with pattern := s.held }, on)
  | .getMore => ({ s with pattern := s.pattern ++ '\n' :: s.held }, on)
  | .exchange => ({ s with pattern := s.held, held := s.pattern }, on)
  | .number => (s.emit (Bytes.ofNat s.number ++ ['\n']), on)
  | .append text => ({ s with appended := text :: s.appended }, on)
  | .insert text => (s.emit text, on)
  | .change text =>
    if inRange then (s, .restart) else (s.emit text, .restart)
  | .label _ => (s, on)
  | .branch name => (s, .goto (labelPlace cs name))
  | .branchIf name =>
    if s.substituted then ({ s with substituted := false }, .goto (labelPlace cs name)) else (s, on)
  | .branchUnless name =>
    if s.substituted then ({ s with substituted := false }, on) else (s, .goto (labelPlace cs name))
  | .blockStart => (s, on)
  | .blockEnd => (s, on)
  | .zap => ({ s with pattern := [] }, on)
  | .readFile name =>
    ({ s with appended := (Files.read s.world name).toOption.getD [] :: s.appended }, on)
  | .writeFile name => (addToFile s name (narrow s.pattern ++ ['\n']), on)
  | .nothing => (s, on)

/-- One step of a round: a command, if it is for the line. -/
def stepAt (silent : Bool) (cs : Array Instruction) (i : Nat) (s : Editing) : Editing × Step :=
  match cs[i]? with
  | none => (s, .finish)
  | some c =>
    let (s, hit) := s.applies i c
    if hit != c.negated then
      let inRange := c.second.isSome && !c.negated && s.ranges.any (·.1 == i)
      perform silent cs i c.action inRange s
    else
      match c.action with
      | .blockStart => (s, .goto (blockEndAfter cs cs.size (i + 1) 0))
      | _ => (s, .goto (i + 1))

/-- Edit a stream; nothing if it does not end in the given number of steps. -/
def edit (silent : Bool) (cs : Array Instruction) : Nat → Nat → Editing → Option Editing
  | 0, _, _ => none
  | fuel + 1, i, s =>
    let ends (s : Editing) : Editing := (if silent then s else s.emitLine s.pattern).flush
    let nextRound (s : Editing) : Option Editing :=
      match s.flush.advance false with
      | some s => edit silent cs fuel 0 { s with substituted := false }
      | none => some s.flush
    match stepAt silent cs i s with
    | (s, .goto j) => edit silent cs fuel j s
    | (s, .finish) => nextRound (if silent then s else s.emitLine s.pattern)
    | (s, .restart) => nextRound s
    | (s, .restartKeeping) => edit silent cs fuel 0 s.flush
    | (s, .quit) => some (ends s)
    | (s, .quitSilently) => some s

/-- A label that commands go to and that is not there. -/
def missingLabel? (cs : Array Instruction) : Option Bytes :=
  let labels := cs.toList.filterMap fun c => match c.action with
    | .label n => some n
    | _ => none
  cs.toList.findSome? fun c =>
    let target := match c.action with
      | .branch n => n
      | .branchIf n => n
      | .branchUnless n => n
      | _ => []
    if target.isEmpty || labels.contains target then none else some target

def usage (name : Bytes) : Bytes :=
  "Usage: ".toList ++ name ++ (
    " [OPTION]... \x7bscript-only-if-no-other-script\x7d [input-file]...\n\n" ++
    "  -n, --quiet, --silent\n                 suppress automatic printing of pattern space\n" ++
    "      --debug\n                 annotate program execution\n" ++
    "  -e script, --expression=script\n" ++
    "                 add the script to the commands to be executed\n" ++
    "  -f script-file, --file=script-file\n" ++
    "                 add the contents of script-file to the commands to be executed").toList

def stepLimit : Nat := 2000000

end Sed

open Sed in
def sed (r : Request) : Reply :=
  match r.arguments [⟨'n', "quiet", false⟩, ⟨'n', "silent", false⟩, ⟨'e', "expression", true⟩,
      ⟨'f', "file", true⟩, ⟨'E', "regexp-extended", false⟩, ⟨'r', "", false⟩, ⟨'s', "separate", false⟩,
      ⟨'u', "unbuffered", false⟩] with
  | .error e => .failed 1 (r.message (e ++ '\n' :: usage r.name))
  | .ok a =>
    let explicit := a.has 'e' || a.has 'f'
    let files := (a.options.filter (·.1 == 'f')).map fun p => (p.2, Files.read r.world p.2)
    match files.find? fun p => p.2.toOption.isNone with
    | some (n, .error e) =>
      r.fail ("couldn't open file ".toList ++ n ++ ": ".toList ++ (Files.faultText e).toList) 4
    | _ =>
      if !explicit && a.operands.isEmpty then
        .failed 1 (usage r.name)
      else
        let scripts := if explicit then
            a.options.filterMap fun (c, v) =>
              if c == 'e' then some v
              else if c == 'f' then some (Bytes.trimLineEnds ((Files.read r.world v).toOption.getD []))
              else none
          else [a.operands.headD []]
        let operands := if explicit then a.operands else a.operands.tail
        match parse (a.has 'E' || a.has 'r') (widen (Bytes.joined ['\n'] scripts)) with
        | .error e =>
          r.fail ("-e expression #1, char ".toList ++ Bytes.ofNat e.place ++ ": ".toList ++ e.message)
        | .ok cs =>
          match missingLabel? cs with
          | some l => r.fail ("can't find label for jump to \x60".toList ++ l ++ ['\'']) 4
          | none =>
          let parts := inputsOf r operands
          let isBroken := parts.any fun p => match p.2 with
            | .error .isDirectory => true
            | _ => false
          -- nothing is read after a directory
          let parts := if isBroken then
              let before := parts.takeWhile fun p => match p.2 with
                | .error .isDirectory => false
                | _ => true
              before ++ (parts.drop before.length).take 1
            else parts
          let errors := parts.flatMap fun (n, content) =>
            match content with
            | .ok _ => []
            | .error .isDirectory => r.message ("read error on ".toList ++ n ++ ": Is a directory\n".toList)
            | .error e => r.message ("can't read ".toList ++ n ++ ": ".toList ++ (Files.faultText e).toList ++ ['\n'])
          let texts := parts.filterMap fun p => p.2.toOption
          let texts := texts.filter (!·.isEmpty)
          let lines := texts.flatMap Bytes.lines
          let ended := (texts.getLast?).all Bytes.endsLine
          let start : Editing := { lines, ended, world := r.world }
          let status := if isBroken then 4 else if errors.isEmpty then 0 else 2
          match start.advance false with
          | none => { status, printed := [(.errors, errors)], rest := restAfter r operands }
          | some s =>
            match edit (a.has 'n') cs stepLimit 0 s with
            | none => { elapsedMs := 1.0e15 }
            | some s =>
              match s.fault with
              | some m => r.fail ("-e expression #1, char 0: ".toList ++ m.toList)
              | none =>
                { status := if s.status != 0 then s.status else status
                  printed := [(.errors, errors), (.output, s.out.reverse.flatten)]
                  rest := restAfter r operands, world := some s.world }

end ShapeSearch.Command.Tool
