import ShapeSearch.Text.Letter
import ShapeSearch.Text.Normal

/-!
# Tokens of Python source

`Token.ofSource?` cuts a source text into tokens, or refuses it.  Line ends inside brackets and blank
lines leave no token; the depth of each line shows as `indent` and `dedent` tokens, which are balanced
at the end of the text.
-/

namespace ShapeSearch.Source

structure Quoting where
  raw : Bool := false
  bytes : Bool := false
  formatted : Bool := false

inductive Token where
  | name (s : String)
  | keyword (s : String)
  | number (imaginary : Bool)
  | text (q : Quoting) (body : List Char)
  | op (s : String)
  | newline
  | indent
  | dedent

def keywords : List String :=
  ["False", "None", "True", "and", "as", "assert", "async", "await", "break", "class", "continue",
    "def", "del", "elif", "else", "except", "finally", "for", "from", "global", "if", "import", "in",
    "is", "lambda", "nonlocal", "not", "or", "pass", "raise", "return", "try", "while", "with",
    "yield"]

def operators : List String :=
  ["**=", "//=", ">>=", "<<=", "...", "!=", "%=", "&=", "**", "*=", "+=", "-=", "->", "//", "/=",
    ":=", "<<", "<=", "==", ">=", ">>", "@=", "^=", "|=", "%", "&", "*", "+", ",", "-", ".", "/",
    ":", ";", "<", "=", ">", "@", "^", "|", "~"]

def dropText? : List Char → List Char → Option (List Char)
  | [], s => some s
  | w :: ws, c :: s => if w == c then dropText? ws s else none
  | _ :: _, [] => none

def operator? (s : List Char) : Option (String × List Char) :=
  operators.findSome? fun w => (dropText? w.toList s).map (w, ·)

/-- Characters that run on in a name, as far as cutting goes. -/
def runsOn (c : Char) : Bool :=
  c.isAlphanum || c == '_' || 128 ≤ c.toNat

/-- Digits with single underscores between them, after a first digit. -/
def digitTail (p : Char → Bool) : List Char → Option (List Char)
  | [] => some []
  | '_' :: d :: r => if p d then digitTail p r else none
  | ['_'] => none
  | c :: r => if p c then digitTail p r else some (c :: r)

def decimalTail (s : List Char) : Option (List Char) :=
  digitTail Char.isDigit s

def wordsAfterNumber : List String :=
  ["and", "else", "for", "if", "in", "is", "or", "not"]

/-- A number must not run on into a name, apart from a few words. -/
def numberEnd? (s : List Char) : Option (List Char) :=
  match s with
  | [] => some s
  | c :: _ =>
    if wordsAfterNumber.any fun w => (dropText? w.toList s).isSome then some s
    else if runsOn c then none
    else some s

/-- Digits of a base with single underscores between them, also before the first. -/
def basedDigits (p : Char → Bool) : List Char → Option (List Char)
  | '_' :: c :: r => if p c then digitTail p r else none
  | c :: r => if p c then digitTail p r else none
  | [] => none

/-- The end of a number after its exponent: the mark of an imaginary number, if any. -/
def imaginaryEnd? (s : List Char) : Option (Bool × List Char) :=
  match s with
  | 'j' :: r => (numberEnd? r).map (true, ·)
  | 'J' :: r => (numberEnd? r).map (true, ·)
  | r => (numberEnd? r).map (false, ·)

/-- A number from its exponent on; an `e` that no digits follow belongs to what comes next. -/
def exponentEnd? (s : List Char) : Option (Bool × List Char) :=
  match s with
  | e :: r =>
    if e == 'e' || e == 'E' then
      match r with
      | '+' :: d :: r' => if d.isDigit then (decimalTail r').bind imaginaryEnd? else none
      | '-' :: d :: r' => if d.isDigit then (decimalTail r').bind imaginaryEnd? else none
      | ['+'] => none
      | ['-'] => none
      | d :: r' =>
        if d.isDigit then (decimalTail r').bind imaginaryEnd?
        else (numberEnd? s).map (false, ·)
      | [] => (numberEnd? s).map (false, ·)
    else imaginaryEnd? s
  | [] => imaginaryEnd? s

def fractionEnd? (s : List Char) : Option (Bool × List Char) :=
  match s with
  | c :: r => if c.isDigit then (decimalTail r).bind exponentEnd? else exponentEnd? s
  | [] => exponentEnd? s

def skipZeros : List Char → Option (List Char)
  | '0' :: r => skipZeros r
  | '_' :: r => if r.head?.any Char.isDigit then skipZeros r else none
  | r => some r

/-- A number that begins with a zero, after that zero. -/
def zeroEnd? (s : List Char) : Option (Bool × List Char) :=
  let based (p : Char → Bool) (r : List Char) : Option (Bool × List Char) := do
    let r ← basedDigits p r
    match r with
    | c :: _ => if c.isDigit then none else (numberEnd? r).map (false, ·)
    | [] => some (false, r)
  match s with
  | 'x' :: r => based (fun c => c.isDigit || ('a' ≤ c && c ≤ 'f') || ('A' ≤ c && c ≤ 'F')) r
  | 'X' :: r => based (fun c => c.isDigit || ('a' ≤ c && c ≤ 'f') || ('A' ≤ c && c ≤ 'F')) r
  | 'o' :: r => based (fun c => '0' ≤ c && c < '8') r
  | 'O' :: r => based (fun c => '0' ≤ c && c < '8') r
  | 'b' :: r => based (fun c => c == '0' || c == '1') r
  | 'B' :: r => based (fun c => c == '0' || c == '1') r
  | _ => do
    let r ← skipZeros s
    let nonzero := match r with
      | c :: _ => c.isDigit
      | [] => false
    let r ← if nonzero then decimalTail r else some r
    match r with
    | '.' :: r => fractionEnd? r
    | c :: _ =>
      if c == 'e' || c == 'E' || c == 'j' || c == 'J' then exponentEnd? r
      else if nonzero then none
      else (numberEnd? r).map (false, ·)
    | [] => if nonzero then none else some (false, r)

/-- Whether what follows digits leaves the number whole: no exponent and no mark of an imaginary one. -/
def isWhole : List Char → Bool
  | 'j' :: _ => false
  | 'J' :: _ => false
  | e :: c :: _ => !((e == 'e' || e == 'E') && (c.isDigit || c == '+' || c == '-'))
  | _ => true

/-- Whether more digits come than a whole number may have. -/
def hasManyDigits (s : List Char) : Bool :=
  4300 < (s.takeWhile fun c => c.isDigit || c == '_').countP Char.isDigit

/-- A number; gives whether it is imaginary, and the rest.  A whole number in base ten has only so many
digits. -/
def number? (s : List Char) : Option (Bool × List Char) :=
  match s with
  | '.' :: r => fractionEnd? r
  | '0' :: r => zeroEnd? r
  | _ :: r => do
    let rest ← decimalTail r
    match rest with
    | '.' :: r => fractionEnd? r
    | rest => if isWhole rest && hasManyDigits s then none else exponentEnd? rest
  | [] => none

def shortText (q : Char) : List Char → List Char → Option (List Char × List Char)
  | [], _ => none
  | '\n' :: _, _ => none
  | '\\' :: c :: r, out => shortText q r (c :: '\\' :: out)
  | c :: r, out => if c == q then some (out.reverse, r) else shortText q r (c :: out)

def longText (q : Char) : List Char → List Char → Option (List Char × List Char)
  | [], _ => none
  | '\\' :: c :: r, out => longText q r (c :: '\\' :: out)
  | c :: r, out =>
    if c == q && [q, q].isPrefixOf r then some (out.reverse, r.drop 2) else longText q r (c :: out)

def literal? (s : List Char) : Option (List Char × List Char) :=
  match s with
  | a :: b :: c :: r =>
    if a == b && a == c then longText a r []
    else if a == b then some ([], c :: r)
    else shortText a (b :: c :: r) []
  | [a, b] => if a == b then some ([], []) else none
  | _ => none

/-- The letters before a quote that say how to read the literal, if they are well formed. -/
def quoting? : List Char → Quoting → Bool → Option Quoting
  | [], q, _ => some q
  | c :: r, q, u =>
    let l := c.toLower
    if l == 'b' && !(q.bytes || u || q.formatted) then quoting? r { q with bytes := true } u
    else if l == 'u' && !(q.bytes || u || q.raw || q.formatted) then quoting? r q true
    else if l == 'r' && !(q.raw || u) then quoting? r { q with raw := true } u
    else if l == 'f' && !(q.formatted || q.bytes || u) then quoting? r { q with formatted := true } u
    else none

/-- The place of a line's first character, counting a tab up to the next multiple of eight and,
beside that, as one. -/
structure Column where
  wide : Nat
  narrow : Nat

/-- Skip the blanks at the start of a line; a line continued by a backslash keeps the first column
that matters. -/
def lineIndent : Column → Option Nat → List Char → Option (Column × List Char)
  | col, kept, ' ' :: r => lineIndent ⟨col.wide + 1, col.narrow + 1⟩ kept r
  | col, kept, '\t' :: r => lineIndent ⟨(col.wide / 8 + 1) * 8, col.narrow + 1⟩ kept r
  | _, kept, '\x0c' :: r => lineIndent ⟨0, 0⟩ kept r
  | col, kept, '\\' :: '\n' :: r =>
    if r.isEmpty then none
    else lineIndent col (some (match kept with
      | some k => if k = 0 then col.wide else k
      | none => col.wide)) r
  | _, _, '\\' :: _ => none
  | col, kept, s =>
    match kept with
    | some k => if k = 0 then some (col, s) else some (⟨k, k⟩, s)
    | none => some (col, s)

def depthLimit : Nat := 100

def bracketLimit : Nat := 200

def closeDepths (col : Nat) : List Column → List Token → List Token × List Column
  | [], out => (out, [])
  | [base], out => (out, [base])
  | d :: e :: r, out =>
    if col < d.wide then closeDepths col (e :: r) (.dedent :: out) else (out, d :: e :: r)

/-- Compare a line's column with the open depths, deepest first. -/
def depthTokens? (col : Column) (depths : List Column) (out : List Token) :
    Option (List Token × List Column) :=
  match depths with
  | [] => none
  | d :: r =>
    if col.wide = d.wide then if col.narrow = d.narrow then some (out, depths) else none
    else if d.wide < col.wide then
      if depthLimit ≤ depths.length || col.narrow ≤ d.narrow then none
      else some (.indent :: out, col :: d :: r)
    else
      match closeDepths col.wide depths out with
      | (out, e :: r) =>
        if col.wide = e.wide && col.narrow = e.narrow then some (out, e :: r) else none
      | (_, []) => none

def closer (c : Char) : Char :=
  if c == '(' then ')' else if c == '[' then ']' else '}'

def isName : List Char → Bool
  | [] => false
  | c :: r => Text.isIdStart c && r.all Text.isIdContinue

def wordToken (w : List Char) : Option Token :=
  let s := String.ofList w
  if keywords.contains s then some (.keyword s)
  else if isName w then some (.name (String.ofList (Text.normalName w)))
  else none

/-- Cut a text into tokens.  `lineStart` says that a line begins here, `depths` and `brackets` are
open, innermost first, and `out` holds the tokens, last first. -/
def cut : Nat → Bool → List Column → List Char → List Char → List Token → Option (List Token)
  | 0, _, _, _, _, _ => none
  | fuel + 1, true, depths, brackets, s, out => do
    let (col, r) ← lineIndent ⟨0, 0⟩ none s
    let blank := match r with
      | '#' :: _ => true
      | '\n' :: _ => true
      | _ => false
    if blank then
      match r.dropWhile (· ≠ '\n') with
      | _ :: r => cut fuel true depths brackets r out
      | [] => cut fuel true depths brackets [] out
    else if brackets.isEmpty then
      let (out, depths) ← depthTokens? col depths out
      if r.isEmpty then some out.reverse else cut fuel false depths brackets r out
    else if r.isEmpty then none
    else cut fuel false depths brackets r out
  | fuel + 1, false, depths, brackets, s, out =>
    match s with
    | [] => none
    | c :: r =>
      if c == ' ' || c == '\t' || c == '\x0c' then cut fuel false depths brackets r out
      else if c == '#' then cut fuel false depths brackets (r.dropWhile (· ≠ '\n')) out
      else if c == '\n' then
        cut fuel true depths brackets r (if brackets.isEmpty then .newline :: out else out)
      else if c == '\\' then
        match r with
        | '\n' :: r => if r.isEmpty then none else cut fuel false depths brackets r out
        | _ => none
      else if c == '"' || c == '\'' then
        match literal? s with
        | some (body, r) => cut fuel false depths brackets r (.text {} body :: out)
        | none => none
      else if c.isDigit || (c == '.' && (r.head?.any Char.isDigit)) then
        match number? s with
        | some (imaginary, r) =>
          cut fuel false depths brackets r (.number imaginary :: out)
        | none => none
      else if runsOn c then
        let w := s.takeWhile runsOn
        let rest := s.dropWhile runsOn
        let quoted := match rest with
          | '"' :: _ => quoting? w {} false
          | '\'' :: _ => quoting? w {} false
          | _ => none
        match quoted with
        | some q =>
          match literal? rest with
          | some (body, r) => cut fuel false depths brackets r (.text q body :: out)
          | none => none
        | none =>
          match wordToken w with
          | some t => cut fuel false depths brackets rest (t :: out)
          | none => none
      else if c == '(' || c == '[' || c == '{' then
        if bracketLimit ≤ brackets.length then none
        else cut fuel false depths (c :: brackets) r (.op c.toString :: out)
      else if c == ')' || c == ']' || c == '}' then
        match brackets with
        | b :: bs =>
          if closer b == c then cut fuel false depths bs r (.op c.toString :: out) else none
        | [] => none
      else
        match operator? s with
        | some (w, r) => cut fuel false depths brackets r (.op w :: out)
        | none => none

/-- Line ends in one form, with one at the end of the text; a text that ends in `\r\n` has an empty line
after it.  `out` holds what was read, last character first. -/
def closedLines : List Char → List Char → List Char
  | [], '\n' :: out => ('\n' :: out).reverse
  | [], out => ('\n' :: out).reverse
  | ['\r', '\n'], out => ('\n' :: '\n' :: out).reverse
  | '\r' :: '\n' :: r, out => closedLines r ('\n' :: out)
  | c :: r, out => closedLines r ((if c == '\r' then '\n' else c) :: out)

def Token.ofSource? (s : List Char) : Option (List Token) :=
  if s.any (· == '\x00') then none
  else
    let s := closedLines s []
    cut (2 * s.length + 4) true [⟨0, 0⟩] [] s []

end ShapeSearch.Source
