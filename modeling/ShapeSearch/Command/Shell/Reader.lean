import ShapeSearch.Command.Shell.Syntax

/-!
# Reading shell scripts

`readCommand` reads the next complete command of a script: all that stands up to the end of a line,
with the documents that follow it.  A script is read and run one command after the other, so what
precedes a mistake still runs.
-/

namespace ShapeSearch.Command.Shell

structure SyntaxError where
  line : Nat
  message : String

inductive Token where
  | endOfFile
  | newline
  | semicolon
  | ampersand
  | andIf
  | orIf
  | bar
  | leftParen
  | rightParen
  | endArm
  | redirect (kind : RedirectKind) (fd : Nat) (stripTabs : Bool)
  /-- a word, with its text if nothing in it is quoted or replaced -/
  | word (parts : Word) (bare : Option Bytes)
  | keyword (text : String)

def Token.shown : Token → String
  | .endOfFile => "end of file"
  | .newline => "newline"
  | .semicolon => "\";\""
  | .ampersand => "\"&\""
  | .andIf => "\"&&\""
  | .orIf => "\"||\""
  | .bar => "\"|\""
  | .leftParen => "\"(\""
  | .rightParen => "\")\""
  | .endArm => "\";;\""
  | .redirect _ _ _ => "redirection"
  | .word _ _ => "word"
  | .keyword k => "\"" ++ k ++ "\""

def keywords : List String :=
  ["!", "case", "do", "done", "elif", "else", "esac", "fi", "for", "if", "in", "then", "until",
    "while", "\x7b", "\x7d"]

def Token.endsList : Token → Bool
  | .endOfFile => true
  | .rightParen => true
  | .endArm => true
  | .keyword k => ["do", "done", "elif", "else", "esac", "fi", "then", "\x7d"].contains k
  | _ => false

structure Script where
  rest : Bytes
  line : Nat := 1
  /-- a token that has been read and not used -/
  pushed : Option Token := none
  /-- documents that follow the line, first first -/
  pending : List Document := []
  /-- documents that have been read -/
  documents : List (Nat × Word) := []
  nextDocument : Nat := 0

abbrev Read (α : Type) := Script → Except SyntaxError (α × Script)

namespace Read

@[inline] def give {α : Type} (a : α) : Read α := fun s => .ok (a, s)

@[inline] def andThen {α β : Type} (x : Read α) (f : α → Read β) : Read β := fun s =>
  match x s with
  | .ok (a, s) => f a s
  | .error e => .error e

instance : Monad Read where
  pure := Read.give
  bind := Read.andThen

def fail {α : Type} (message : String) : Read α := fun s => .error ⟨s.line, message⟩

def unexpected {α : Type} (t : Token) : Read α := fail (t.shown ++ " unexpected")

def expecting {α : Type} (t : Token) (wanted : String) : Read α :=
  fail (t.shown ++ " unexpected (expecting \"" ++ wanted ++ "\")")

def line : Read Nat := fun s => .ok (s.line, s)

def push (t : Token) : Read Unit := fun s => .ok ((), { s with pushed := some t })

def pop : Read (Option Token) := fun s => .ok (s.pushed, { s with pushed := none })

def current : Read Script := fun s => .ok (s, s)

def restart (s : Script) : Read Unit := fun _ => .ok ((), s)

def skipJoins : Bytes → Nat → Bytes × Nat
  | '\\' :: '\n' :: r, n => skipJoins r (n + 1)
  | r, n => (r, n)

/-- The next character, left in place; joined lines count as one. -/
def peek : Read (Option Char) := fun s =>
  let (rest, line) := skipJoins s.rest s.line
  .ok (rest.head?, { s with rest, line })

def drop : Read Unit := fun s =>
  match s.rest with
  | [] => .ok ((), s)
  | c :: r => .ok ((), { s with rest := r, line := if c == '\n' then s.line + 1 else s.line })

/-- Take the next character; a line end does not count. -/
def discard : Read Unit := fun s => .ok ((), { s with rest := s.rest.tail })

def take : Read (Option Char) := fun s =>
  match s.rest with
  | [] => .ok (none, s)
  | c :: r => .ok (some c, { s with rest := r, line := if c == '\n' then s.line + 1 else s.line })

def accept (c : Char) : Read Bool := do
  if (← peek) == some c then
    drop
    pure true
  else pure false

def remaining : Read Nat := fun s => .ok (s.rest.length, s)

/-- Take characters of a class; joined lines count as one. -/
def takeClass (p : Char → Bool) : Nat → Bytes → Read Bytes
  | 0, out => pure out.reverse
  | fuel + 1, out => do
    match ← peek with
    | some c =>
      if p c then
        drop
        takeClass p fuel (c :: out)
      else pure out.reverse
    | none => pure out.reverse

/-- The text up to a single quote, which is taken. -/
def singleQuoted : Read Bytes := fun s =>
  let text := s.rest.takeWhile (· != '\'')
  let line := s.line + text.count '\n'
  match s.rest.drop text.length with
  | _ :: r => .ok (text, { s with rest := r, line })
  | [] => .error ⟨line, "Unterminated quoted string"⟩

end Read

open Read

/-- What ends the parts that are being read. -/
inductive Close where
  /-- a character that no word holds -/
  | word
  /-- the same, in the delimiter of a document, where nothing is replaced -/
  | delimiter
  | quote
  /-- a brace; between inner quotes it is a character like others -/
  | brace (inner : Bool)
  /-- two brackets, after as many brackets as are open -/
  | arithmetic (depth : Nat)
  | text
deriving DecidableEq

def endsWord (c : Char) : Bool := " \t\n;&|<>()".toList.contains c

/-- Add a character to the text read so far, which is kept last character first. -/
def addPlain (c : Char) : List Part → List Part
  | .plain s :: r => .plain (c :: s) :: r
  | r => .plain [c] :: r

def addQuoted (c : Char) : List Part → List Part
  | .quoted s :: r => .quoted (c :: s) :: r
  | r => .quoted [c] :: r

def addChar (inQuotes : Bool) (c : Char) (out : List Part) : List Part :=
  if inQuotes then addQuoted c out else addPlain c out

/-- Parts in the order of the script, from parts kept last first, and the other way round. -/
def finishParts (out : List Part) : List Part :=
  out.reverse.map fun
    | .plain s => .plain s.reverse
    | .quoted s => .quoted s.reverse
    | p => p

/-- Characters that a backslash between double quotes takes the meaning of. -/
def isEscapable (close : Close) (c : Char) : Bool :=
  c == '\\' || c == '\x60' || c == '$' || (c == '"' && close != .text) ||
    (c == '}' && (match close with | .brace _ => true | _ => false))

/-- Close the text between two backquotes: what it holds, without the backslashes that protected it. -/
def backquoted (inQuotes : Bool) : Nat → Bytes → Read Bytes
  | 0, _ => fail "EOF in backquote substitution"
  | fuel + 1, out => do
    match ← peek with
    | none => fail "EOF in backquote substitution"
    | some '\x60' =>
      drop
      pure out.reverse
    | some '\\' =>
      drop
      match ← take with
      | none => fail "EOF in backquote substitution"
      | some c =>
        if c == '\\' || c == '\x60' || c == '$' || (inQuotes && c == '"') then
          backquoted inQuotes fuel (c :: out)
        else backquoted inQuotes fuel (c :: '\\' :: out)
    | some c =>
      drop
      backquoted inQuotes fuel (c :: out)

/-- The form of a parameter in braces after its name, and whether the brace is closed. -/
def readForm : Read (Form × Bool) := do
  let colon ← accept ':'
  match ← peek with
  | some '}' =>
    drop
    pure (if colon then (.malformed, false) else (.value, true))
  | some '-' =>
    drop
    pure (.orElse colon, false)
  | some '=' =>
    drop
    pure (.orAssign colon, false)
  | some '+' =>
    drop
    pure (.ifSet colon, false)
  | some '?' =>
    drop
    pure (.orFail colon, false)
  | some '%' =>
    drop
    if colon then pure (.malformed, false) else pure (.trimEnd (← accept '%'), false)
  | some '#' =>
    drop
    if colon then pure (.malformed, false) else pure (.trimStart (← accept '#'), false)
  | none => pure (.malformed, false)
  | some _ =>
    discard
    pure (.malformed, false)

def readBraceHead : Read (Bytes × Form × Bool) := do
  let fuel ← remaining
  match ← peek with
  | none => pure ([], .malformed, false)
  | some c =>
    if isNameStart c then
      let name ← takeClass isNameChar fuel []
      let (f, closed) ← readForm
      pure (name, f, closed)
    else if c.isDigit then
      let name ← takeClass Char.isDigit fuel []
      let (f, closed) ← readForm
      pure (name, f, closed)
    else if c == '}' then pure ([], .malformed, false)
    else
      discard
      if c == '#' then
        match ← peek with
        | none => pure ([], .malformed, false)
        | some d =>
          if isNameChar d then
            let name ← if d.isDigit then takeClass Char.isDigit fuel [] else takeClass isNameChar fuel []
            pure (name, if (← peek) == some '}' then .length else .malformed, false)
          else if d == '}' then
            drop
            pure (['#'], .value, true)
          else
            let before ← current
            drop
            if (← peek) == some '}' && isSpecial d then pure ([d], .length, false)
            else
              restart before
              let (f, closed) ← readForm
              pure (['#'], f, closed)
      else if isSpecial c then
        let (f, closed) ← readForm
        pure ([c], f, closed)
      else pure ([], .malformed, false)

def isJoined (l : Bytes) : Bool := (l.reverse.takeWhile (· == '\\')).length % 2 == 1

/-- The lines of a document up to the one that is its delimiter, last first, and the rest; nothing if there
is no delimiter.  A line that goes on from the one before is no delimiter. -/
def documentLines (d : Document) : Bool → List Bytes → List Bytes → List Bytes × Option (List Bytes)
  | _, out, [] => (out, none)
  | joined, out, l :: r =>
    let l := if d.stripTabs then l.dropWhile (· == '\t') else l
    if l == d.delimiter && !joined then (out, some r)
    else documentLines d (!d.literal && isJoined l) (l :: out) r

/-- The text of a document, what follows it, and how many line ends it takes with its delimiter. -/
def takeDocument (d : Document) (rest : Bytes) : Bytes × Bytes × Nat :=
  let all := Bytes.lines rest
  let (found, after) := documentLines d false [] all
  let whole := Bytes.endsLine rest
  let text := Bytes.ofLines found.reverse
  match after with
  | none => if whole then (text, [], all.length) else (text.dropLast, [], all.length - 1)
  | some ls =>
    let rest := Bytes.ofLines ls
    (text, if whole then rest else rest.dropLast, all.length - ls.length)

def bareText (parts : Word) : Bytes :=
  parts.flatMap fun
    | .plain s => s
    | .quoted s => s
    | _ => []

def isBare (parts : Word) : Bool :=
  parts.all fun
    | .plain _ => true
    | _ => false

def skipComment : Read Unit := fun s =>
  .ok ((), { s with rest := s.rest.dropWhile (· != '\n') })

def skipSpaces : Read Unit := fun s =>
  .ok ((), { s with rest := s.rest.dropWhile fun c => c == ' ' || c == '\t' })

/-- A redirection, from its sign on; `fd` is the number before it, if any. -/
def readRedirect (fd : Option Nat) : Read Token := do
  match ← peek with
  | some '>' =>
    drop
    if ← accept '>' then pure (.redirect .append (fd.getD 1) false)
    else if ← accept '|' then pure (.redirect .overwrite (fd.getD 1) false)
    else if ← accept '&' then pure (.redirect .copyOutput (fd.getD 1) false)
    else pure (.redirect .write (fd.getD 1) false)
  | _ =>
    drop
    if ← accept '<' then pure (.redirect (.here 0) (fd.getD 0) (← accept '-'))
    else if ← accept '&' then pure (.redirect .copyInput (fd.getD 0) false)
    else if ← accept '>' then pure (.redirect .readWrite (fd.getD 0) false)
    else pure (.redirect .read (fd.getD 0) false)

def follow : Option Statement → Statement → Statement
  | none, c => c
  | some a, c => .seq a c

def specialNames : List String :=
  [".", ":", "break", "continue", "eval", "exec", "exit", "export", "local", "readonly", "return",
    "set", "shift", "times", "trap", "unset"]

/-- How far a list of commands goes. -/
inductive ListKind where
  /-- up to the end of a line -/
  | line
  /-- over several lines, with at least one command -/
  | body
  /-- over several lines, possibly without commands -/
  | optional
deriving DecidableEq

mutual

/-- Parts up to their close, which is taken unless it only ends a word. -/
def readParts : Nat → Bool → Close → List Part → Read Word
  | 0, _, _, _ => fail "word unexpected"
  | fuel + 1, inQuotes, close, out => do
    match ← peek with
    | none =>
      match close with
      | .word => pure (finishParts out)
      | .delimiter => pure (finishParts out)
      | .text => pure (finishParts out)
      | .quote => fail "Unterminated quoted string"
      | .brace _ => fail (if inQuotes then "Unterminated quoted string" else "Missing '\x7d'")
      | .arithmetic _ => fail "Missing '))'"
    | some c =>
      if (close == .word || close == .delimiter) && endsWord c then pure (finishParts out)
      else if close == .quote && c == '"' then
        drop
        pure (finishParts out)
      else if close == .brace false && c == '}' then
        drop
        pure (finishParts out)
      else if c == '\\' then
        drop
        match ← take with
        | none => readParts fuel inQuotes close (addQuoted '\\' out)
        | some d =>
          if inQuotes && !isEscapable close d then
            readParts fuel inQuotes close (addQuoted d (addQuoted '\\' out))
          else readParts fuel inQuotes close (addQuoted d out)
      else if close == .delimiter && (c == '$' || c == '\x60') then
        drop
        readParts fuel inQuotes close (addPlain c out)
      else if c == '$' then
        drop
        let p ← readDollar fuel inQuotes
        match p with
        | none => readParts fuel inQuotes close (addChar inQuotes '$' out)
        | some p => readParts fuel inQuotes close (p :: out)
      else if c == '\x60' then
        drop
        let p ← readBackquoted fuel inQuotes
        readParts fuel inQuotes close (p :: out)
      else if inQuotes then
        match close, c with
        | .brace inner, '"' =>
          drop
          readParts fuel inQuotes (.brace !inner) out
        | .arithmetic depth, '(' =>
          drop
          readParts fuel inQuotes (.arithmetic (depth + 1)) (addQuoted c out)
        | .arithmetic (depth + 1), ')' =>
          drop
          readParts fuel inQuotes (.arithmetic depth) (addQuoted c out)
        | .arithmetic 0, ')' =>
          drop
          if ← accept ')' then pure (finishParts out)
          else readParts fuel inQuotes close (addQuoted c out)
        | _, _ =>
          drop
          readParts fuel inQuotes close (addQuoted c out)
      else if c == '\'' then
        drop
        let text ← singleQuoted
        readParts fuel inQuotes close (.quoted text.reverse :: out)
      else if c == '"' then
        drop
        let parts ← readParts fuel true .quote []
        readParts fuel inQuotes close (finishParts parts ++ .quoted [] :: out)
      else
        drop
        readParts fuel inQuotes close (addPlain c out)

/-- What a dollar sign stands for, if it stands for anything. -/
def readDollar : Nat → Bool → Read (Option Part)
  | 0, _ => fail "word unexpected"
  | fuel + 1, inQuotes => do
    match ← peek with
    | none => pure none
    | some '(' =>
      drop
      if ← accept '(' then
        pure (some (.arithmetic inQuotes (← readParts fuel true (.arithmetic 0) [])))
      else
        let outer ← current
        restart { outer with pending := [] }
        let body ← readList fuel .optional
        let t ← readToken fuel false false
        match t with
        | .rightParen =>
          restart { (← current) with pending := outer.pending }
          pure (some (.output inQuotes body))
        | t => expecting t ")"
    | some '{' =>
      drop
      let (name, form, closed) ← readBraceHead
      if closed then pure (some (.parameter inQuotes name form []))
      else
        let plainWord := match form with
          | .trimStart _ => true
          | .trimEnd _ => true
          | _ => false
        let word ← readParts fuel (inQuotes && !plainWord) (.brace false) []
        pure (some (.parameter inQuotes name form word))
    | some c =>
      if isNameStart c then
        let name ← takeClass isNameChar (← remaining) []
        pure (some (.parameter inQuotes name .value []))
      else if c.isDigit || isSpecial c then
        drop
        pure (some (.parameter inQuotes [c] .value []))
      else pure none

def readBackquoted : Nat → Bool → Read Part
  | 0, _ => fail "word unexpected"
  | fuel + 1, inQuotes => do
    let text ← backquoted inQuotes ((← remaining) + 1) []
    let outer ← current
    restart { outer with rest := text, line := 1, pending := [], pushed := none }
    let body ← readList fuel .optional
    let inner ← current
    restart { outer with documents := inner.documents, nextDocument := inner.nextDocument }
    pure (.output inQuotes body)

def readDocuments : Nat → Read Unit
  | 0 => pure ()
  | fuel + 1 => do
    let s ← current
    match s.pending with
    | [] => pure ()
    | d :: more =>
      let (text, rest, used) := takeDocument d s.rest
      restart { s with rest := text, pushed := none }
      let word ← if d.literal then pure [.quoted text] else readParts fuel true .text []
      let inner ← current
      restart { inner with
        rest, line := s.line + used, pending := more, documents := (d.id, word) :: inner.documents }
      readDocuments fuel

/-- The next token; `newlines` are passed over, and `reserved` words are told apart. -/
def readToken : Nat → Bool → Bool → Read Token
  | 0, _, _ => fail "word unexpected"
  | fuel + 1, newlines, reserved => do
    let t ← match ← pop with
      | some t => pure t
      | none => readRaw fuel
    match t with
    | .newline =>
      if newlines then
        readDocuments fuel
        readToken fuel newlines reserved
      else pure t
    | .word _ (some text) =>
      let text := String.ofList text
      pure (if reserved && keywords.contains text then .keyword text else t)
    | t => pure t

def readRaw : Nat → Read Token
  | 0 => fail "word unexpected"
  | fuel + 1 => do
    match ← peek with
    | none => pure .endOfFile
    | some c =>
      if c == ' ' || c == '\t' then
        drop
        readRaw fuel
      else if c == '#' then
        skipComment
        readRaw fuel
      else if c == '\n' then
        drop
        pure .newline
      else if c == '&' then
        drop
        pure (if ← accept '&' then .andIf else .ampersand)
      else if c == '|' then
        drop
        pure (if ← accept '|' then .orIf else .bar)
      else if c == ';' then
        drop
        pure (if ← accept ';' then .endArm else .semicolon)
      else if c == '(' then
        drop
        pure .leftParen
      else if c == ')' then
        drop
        pure .rightParen
      else
        let parts ← readParts fuel false .word []
        let next ← peek
        let bare := if isBare parts then some (bareText parts) else none
        match bare, next == some '<' || next == some '>' with
        | some [], true => readRedirect none
        | some [d], true =>
          if d.isDigit then readRedirect (some (d.toNat - 48)) else pure (.word parts bare)
        | _, _ => pure (.word parts bare)

def readTarget : Nat → RedirectKind → Nat → Bool → Read Redirect
  | 0, _, _, _ => fail "word unexpected"
  | fuel + 1, kind, fd, stripTabs => do
    let isHere := match kind with
      | .here _ => true
      | _ => false
    if isHere then
      skipSpaces
      if (← peek).any fun c => !endsWord c then
        let parts ← readParts fuel false .delimiter []
        let s ← current
        let d : Document := ⟨s.nextDocument, bareText parts, !isBare parts, stripTabs⟩
        restart { s with nextDocument := s.nextDocument + 1, pending := s.pending ++ [d] }
        pure (.to (.here d.id) fd [])
      else unexpected (← readToken fuel false false)
    else
      match ← readToken fuel false false with
      | .word parts _ => pure (.to kind fd parts)
      | t => unexpected t

def readRedirects : Nat → List Redirect → Read (List Redirect)
  | 0, _ => fail "word unexpected"
  | fuel + 1, out => do
    match ← readToken fuel false true with
    | .redirect kind fd strip =>
      let r ← readTarget fuel kind fd strip
      readRedirects fuel (r :: out)
    | t =>
      push t
      pure out.reverse

def readSimple : Nat → Nat → List (Bytes × Word) → List Word → List Redirect → Read Statement
  | 0, _, _, _, _ => fail "word unexpected"
  | fuel + 1, line, vars, words, redirects => do
    let t ← readToken fuel false false
    match t with
    | .word parts _ =>
      match parts, words with
      | .plain s :: more, [] =>
        match splitAssignment? s with
        | some (name, value) =>
          let value := if value.isEmpty then more else .plain value :: more
          readSimple fuel line ((name, value) :: vars) words redirects
        | none => readSimple fuel line vars (parts :: words) redirects
      | _, _ => readSimple fuel line vars (parts :: words) redirects
    | .redirect kind fd strip =>
      let r ← readTarget fuel kind fd strip
      readSimple fuel line vars words (r :: redirects)
    | .leftParen =>
      match words, vars, redirects with
      | [name], [], [] =>
        match ← readToken fuel false false with
        | .rightParen =>
          let text := bareText name
          if !isBare name || !isName text || specialNames.contains (String.ofList text) then
            fail "Bad function name"
          else
            let t ← readToken fuel true true
            push t
            pure (.define text (← readCommandPart fuel))
        | t => expecting t ")"
      | _, _, _ =>
        push t
        pure (.simple line vars.reverse words.reverse redirects.reverse)
    | t =>
      push t
      pure (.simple line vars.reverse words.reverse redirects.reverse)

/-- A command that is not made of others by signs. -/
def readCommandPart : Nat → Read Statement
  | 0 => fail "word unexpected"
  | fuel + 1 => do
    let line ← line
    let t ← readToken fuel false true
    let compound (body : Read Statement) (close : String) : Read Statement := do
      let c ← body
      match ← readToken fuel false true with
      | .keyword k => if k = close then pure c else expecting (.keyword k) close
      | t => expecting t close
    let after (c : Statement) : Read Statement := do
      let rs ← readRedirects fuel []
      pure (if rs.isEmpty then c else .redirected line c rs)
    match t with
    | .keyword "if" => after (← compound (readIf fuel) "fi")
    | .keyword "while" => after (← compound (readLoop fuel false) "done")
    | .keyword "until" => after (← compound (readLoop fuel true) "done")
    | .keyword "for" => after (← compound (readFor fuel line) "done")
    | .keyword "\x7b" => after (← compound (readList fuel .body) "\x7d")
    | .keyword "case" => after (← readCase fuel line)
    | .leftParen =>
      let body ← readList fuel .body
      match ← readToken fuel false true with
      | .rightParen => pure (.subshell line body (← readRedirects fuel []))
      | t => expecting t ")"
    | .word _ _ =>
      push t
      readSimple fuel line [] [] []
    | .redirect _ _ _ =>
      push t
      readSimple fuel line [] [] []
    | t => unexpected t

def readIf : Nat → Read Statement
  | 0 => fail "word unexpected"
  | fuel + 1 => do
    let condition ← readList fuel .body
    match ← readToken fuel false true with
    | .keyword "then" =>
      let yes ← readList fuel .body
      match ← readToken fuel false true with
      | .keyword "elif" => pure (.choose condition yes (← readIf fuel))
      | .keyword "else" => pure (.choose condition yes (← readList fuel .body))
      | t =>
        push t
        pure (.choose condition yes .nothing)
    | t => expecting t "then"

def readLoop : Nat → Bool → Read Statement
  | 0, _ => fail "word unexpected"
  | fuel + 1, untilOk => do
    let condition ← readList fuel .body
    match ← readToken fuel false true with
    | .keyword "do" => pure (.loop untilOk condition (← readList fuel .body))
    | t => expecting t "do"

/-- Words up to something else, which is given back too. -/
def readWords : Nat → List Word → Read (List Word × Token)
  | 0, _ => fail "word unexpected"
  | fuel + 1, out => do
    match ← readToken fuel false false with
    | .word parts _ => readWords fuel (parts :: out)
    | t => pure (out.reverse, t)

def readFor : Nat → Nat → Read Statement
  | 0, _ => fail "word unexpected"
  | fuel + 1, line => do
    match ← readToken fuel false false with
    | .word _ (some name) =>
      if !isName name then fail "Bad for loop variable"
      else
        let words ← match ← readToken fuel true true with
          | .keyword "in" => do
            let (words, t) ← readWords fuel []
            match t with
            | .newline => readDocuments fuel
            | .semicolon => pure ()
            | t => unexpected t
            pure words
          | .semicolon => pure [[.parameter true ['@'] .value []]]
          | t => do
            push t
            pure [[.parameter true ['@'] .value []]]
        match ← readToken fuel true true with
        | .keyword "do" => pure (.each line name words (← readList fuel .body))
        | t => expecting t "do"
    | _ => fail "Bad for loop variable"

def readPatterns : Nat → Token → List Word → Read (List Word)
  | 0, _, _ => fail "word unexpected"
  | fuel + 1, t, out => do
    let pattern := match t with
      | .word parts _ => parts
      | .keyword k => [.plain k.toList]
      | _ => []
    match ← readToken fuel false false with
    | .bar => readPatterns fuel (← readToken fuel false false) (pattern :: out)
    | .rightParen => pure (pattern :: out).reverse
    | t => expecting t ")"

def readArms : Nat → List (List Word × Statement) → Read (List (List Word × Statement))
  | 0, _ => fail "word unexpected"
  | fuel + 1, out => do
    match ← readToken fuel true true with
    | .keyword "esac" => pure out.reverse
    | t =>
      let t ← match t with
        | .leftParen => readToken fuel false false
        | t => pure t
      let patterns ← readPatterns fuel t []
      let body ← readList fuel .optional
      match ← readToken fuel true true with
      | .keyword "esac" => pure ((patterns, body) :: out).reverse
      | .endArm => readArms fuel ((patterns, body) :: out)
      | t => expecting t ";;"

def readCase : Nat → Nat → Read Statement
  | 0, _ => fail "word unexpected"
  | fuel + 1, line => do
    match ← readToken fuel false false with
    | .word parts _ =>
      match ← readToken fuel true true with
      | .keyword "in" => pure (.select line parts (← readArms fuel []))
      | t => expecting t "in"
    | t => fail (t.shown ++ " unexpected (expecting word)")

def readPipes : Nat → List Statement → Read Statement
  | 0, _ => fail "word unexpected"
  | fuel + 1, out => do
    let c ← readCommandPart fuel
    match ← readToken fuel false false with
    | .bar =>
      let t ← readToken fuel true true
      push t
      readPipes fuel (c :: out)
    | t =>
      push t
      pure (if out.isEmpty then c else .pipeline (c :: out).reverse)

def readPipeline : Nat → Read Statement
  | 0 => fail "word unexpected"
  | fuel + 1 => do
    match ← readToken fuel false true with
    | .keyword "!" =>
      let t ← readToken fuel false true
      push t
      pure (.negate (← readPipes fuel []))
    | t =>
      push t
      readPipes fuel []

/-- Pipelines of which each depends on the one before. -/
def readAndOr : Nat → Statement → Read Statement
  | 0, _ => fail "word unexpected"
  | fuel + 1, first => do
    match ← readToken fuel false false with
    | .andIf =>
      let t ← readToken fuel true true
      push t
      readAndOr fuel (.both first (← readPipeline fuel))
    | .orIf =>
      let t ← readToken fuel true true
      push t
      readAndOr fuel (.either first (← readPipeline fuel))
    | t =>
      push t
      pure first

def readList : Nat → ListKind → Read Statement
  | 0, _ => fail "word unexpected"
  | fuel + 1, kind => do pure ((← readListFrom fuel kind (kind == .optional) none).getD .nothing)

/-- A list of commands after the ones read so far; `mayEnd` says that no further command is needed. -/
def readListFrom : Nat → ListKind → Bool → Option Statement → Read (Option Statement)
  | 0, _, _, _ => fail "word unexpected"
  | fuel + 1, kind, mayEnd, done => do
    let t ← readToken fuel (kind != .line) true
    match t with
    | .newline =>
      readDocuments fuel
      pure done
    | .endOfFile =>
      readDocuments fuel
      push t
      pure done
    | t =>
      push t
      if kind != .line && mayEnd && t.endsList then pure done
      else
        let c ← readAndOr fuel (← readPipeline fuel)
        let t ← readToken fuel false false
        match t with
        | .ampersand => readListFrom fuel kind true (some (follow done (.background c)))
        | .semicolon => readListFrom fuel kind true (some (follow done c))
        | .newline =>
          push t
          readListFrom fuel kind true (some (follow done c))
        | .endOfFile =>
          readDocuments fuel
          push t
          pure (some (follow done c))
        | t =>
          if kind == .line then unexpected t
          else
            push t
            pure (some (follow done c))

end

/-- The next complete command of a script, and what follows it; nothing at the end. -/
def readCommand (s : Script) : Except SyntaxError (Option Statement × Script) := do
  let fuel := 8 * s.rest.length + 64
  let (t, s) ← readToken fuel false true s
  match t with
  | .endOfFile => .ok (none, s)
  | t =>
    let (c, s) ← readListFrom fuel .line false none { s with pushed := some t }
    .ok (some (c.getD .nothing), { s with pushed := match s.pushed with
      | some .endOfFile => none
      | p => p })

end ShapeSearch.Command.Shell
