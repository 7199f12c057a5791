import ShapeSearch.Command.Shell.Wildcard

/-!
# Regular expressions of programs

The expressions of `grep` and `sed`, in their basic and their extended form.  A match starts as far
left as possible and is the longest of those that start there; a back reference matches what its group has
matched.
-/

namespace ShapeSearch.Command.Tool

open Shell (SetMember)

inductive Regex where
  | empty
  | one (c : Char)
  | any
  | set (negated : Bool) (members : List SetMember)
  | lineStart
  | lineEnd
  | wordStart
  | wordEnd
  | wordEdge (negated : Bool)
  | group (n : Nat) (body : Regex)
  | backref (n : Nat)
  | seq (first second : Regex)
  | alt (first second : Regex)
  | times (body : Regex) (least : Nat) (most : Option Nat)

structure RegexStyle where
  /-- signs have their meaning without a backslash -/
  extended : Bool := false
  /-- letters after a backslash stand for control characters -/
  controls : Bool := false
  /-- braces without bounds between them stand for themselves -/
  looseBraces : Bool := false

inductive RegexError where
  | unmatchedBracket
  | incomplete
  | bareClass
  | unmatchedParen
  | unmatchedCloseParen
  | unmatchedBrace
  | badBrace
  | badBackref
  | badClass
  | badRange
  | trailingBackslash
deriving DecidableEq

def RegexError.message : RegexError → String
  | .unmatchedBracket => "Unmatched [, [^, [:, [., or [="
  | .incomplete => "Invalid regular expression"
  | .bareClass => "character class syntax is [[:space:]], not [:space:]"
  | .unmatchedParen => "Unmatched ( or \\("
  | .unmatchedCloseParen => "Unmatched ) or \\)"
  | .unmatchedBrace => "Unmatched \\\x7b"
  | .badBrace => "Invalid content of \\\x7b\\\x7d"
  | .badBackref => "Invalid back reference"
  | .badClass => "Invalid character class name"
  | .badRange => "Invalid range end"
  | .trailingBackslash => "Trailing backslash"

structure RegexReading where
  rest : List Char
  groups : Nat := 0
  /-- groups that are complete -/
  closed : List Nat := []

abbrev RegexRead := EStateM RegexError RegexReading

namespace RegexRead

def left : RegexRead (List Char) := do pure (← get).rest

def advance (n : Nat) : RegexRead Unit := modify fun r => { r with rest := r.rest.drop n }

/-- The name of a class in brackets, and how many characters it takes with its end. -/
def className : List Char → List Char → Nat → Option (List Char × Nat)
  | out, ':' :: ']' :: _, n => some (out.reverse, n + 2)
  | out, c :: r, n => if c.isAlpha then className (c :: out) r (n + 1) else none
  | _, [], _ => none

/-- The members of a set up to its bracket; `first` says that a bracket is a member. -/
def members : Nat → Bool → List SetMember → RegexRead (List SetMember)
  | 0, _, _ => throw .unmatchedBracket
  | fuel + 1, first, out => do
    match ← left with
    | [] => throw .unmatchedBracket
    | ']' :: _ =>
      if first then single fuel ']' out
      else
        advance 1
        pure out.reverse
    | '[' :: ':' :: r =>
      match className [] r 2 with
      | some (name, n) =>
        if (Shell.classHolds name 'a').isNone then throw .badClass
        else
          advance n
          members fuel false (.named name :: out)
      | none => throw .unmatchedBracket
    | '[' :: '.' :: c :: '.' :: ']' :: _ =>
      advance 4
      single fuel c out
    | '[' :: '=' :: c :: '=' :: ']' :: _ =>
      advance 4
      single fuel c out
    | c :: _ => single fuel c out
where
  single (fuel : Nat) (c : Char) (out : List SetMember) : RegexRead (List SetMember) := do
    advance 1
    match ← left with
    | '-' :: ']' :: _ => members fuel false (.range c c :: out)
    | '-' :: d :: _ =>
      if d < c then throw .badRange
      else
        advance 2
        members fuel false (.range c d :: out)
    | _ => members fuel false (.range c c :: out)

def bounds (style : RegexStyle) : RegexRead (Nat × Option Nat) := do
  let r ← left
  let low := r.takeWhile Char.isDigit
  let r := r.dropWhile Char.isDigit
  let (high, r, exact) := match r with
    | ',' :: r => (r.takeWhile Char.isDigit, r.dropWhile Char.isDigit, false)
    | r => ([], r, true)
  let close : List Char := if style.extended then ['}'] else ['\\', '}']
  if low.isEmpty && exact then
    if r.isEmpty then throw .unmatchedBrace else throw .badBrace
  else if close.isPrefixOf r then
    modify fun s => { s with rest := r.drop close.length }
    let least := Bytes.digitsValue low
    let most := if exact then some least else if high.isEmpty then none else some (Bytes.digitsValue high)
    if most.any (· < least) then throw .badBrace else pure (least, most)
  else if r.isEmpty then throw .unmatchedBrace
  else throw .badBrace

def wordMembers : List SetMember :=
  [.named "alnum".toList, .range '_' '_']

def letterClass? : Char → Option Regex
  | 'w' => some (.set false wordMembers)
  | 'W' => some (.set true wordMembers)
  | 's' => some (.set false [.named "space".toList])
  | 'S' => some (.set true [.named "space".toList])
  | 'b' => some (.wordEdge false)
  | 'B' => some (.wordEdge true)
  | '<' => some .wordStart
  | '>' => some .wordEnd
  | '\x60' => some .lineStart
  | '\'' => some .lineEnd
  | _ => none

/-- Whether the bounds of a repetition follow, with the brace at their end. -/
def hasBounds (r : List Char) : Bool :=
  let low := r.takeWhile Char.isDigit
  match r.dropWhile Char.isDigit with
  | '}' :: _ => !low.isEmpty
  | ',' :: r => (r.dropWhile Char.isDigit).head? == some '}'
  | _ => false

/-- Whether a set is a class without the brackets of its own. -/
def isBareClass (r : List Char) (ms : List SetMember) : Bool :=
  match r, ms.getLast? with
  | '[' :: ':' :: _, some (.range ':' ':') => 1 < ms.length
  | _, _ => false

mutual

/-- Expressions of which one matches; `depth` counts the groups around. -/
def choice : Nat → RegexStyle → Nat → RegexRead Regex
  | 0, _, _ => pure .empty
  | fuel + 1, style, depth => do
    let first ← sequence fuel style depth true .empty
    match style.extended, ← left with
    | true, '|' :: _ =>
      advance 1
      pure (.alt first (← choice fuel style depth))
    | false, '\\' :: '|' :: _ =>
      advance 2
      pure (.alt first (← choice fuel style depth))
    | _, _ => pure first

/-- Expressions one after the other; `start` says that nothing has been read yet. -/
def sequence : Nat → RegexStyle → Nat → Bool → Regex → RegexRead Regex
  | 0, _, _, _, done => pure done
  | fuel + 1, style, depth, start, done => do
    let r ← left
    let item (n : Nat) (atom : Regex) : RegexRead Regex := do
      advance n
      let atom ← repeated fuel style atom
      sequence fuel style depth false (.seq done atom)
    match r with
    | [] => pure done
    | '\\' :: [] => throw .trailingBackslash
    | '\\' :: c :: _ =>
      if !style.extended && (c == '|' || c == ')') then
        if c == ')' && depth == 0 then throw .unmatchedCloseParen else pure done
      else if !style.extended && c == '(' then
        advance 2
        let atom ← group fuel style depth
        let atom ← repeated fuel style atom
        sequence fuel style depth false (.seq done atom)
      else if '1' ≤ c && c ≤ '9' then
        let n := c.toNat - 48
        if (← get).closed.contains n then item 2 (.backref n) else throw .badBackref
      else
        match letterClass? c with
        | some a => item 2 a
        | none =>
          if c == 'n' && style.controls then item 2 (.one '\n')
          else if c == 't' && style.controls then item 2 (.one '\t')
          else item 2 (.one c)
    | ['['] => throw .incomplete
    | ['[', '^'] => throw .incomplete
    | '[' :: '^' :: _ =>
      advance 2
      let ms ← members (r.length + 1) true []
      item 0 (.set true ms)
    | '[' :: _ =>
      advance 1
      let ms ← members (r.length + 1) true []
      if isBareClass r ms then throw .bareClass else item 0 (.set false ms)
    | '.' :: _ => item 1 .any
    | '*' :: _ =>
      if start then item 1 (if style.extended then .empty else .one '*') else item 1 (.one '*')
    | '^' :: r' =>
      if style.extended || start then
        advance 1
        let atom ← if style.extended then repeated fuel style .lineStart else pure .lineStart
        match style.extended, r' with
        | false, '*' :: _ =>
          advance 1
          let star ← repeated fuel style (.one '*')
          sequence fuel style depth false (.seq (.seq done atom) star)
        | _, _ => sequence fuel style depth false (.seq done atom)
      else item 1 (.one '^')
    | '$' :: r' =>
      if style.extended then item 1 .lineEnd
      else
        match r' with
        | [] => item 1 .lineEnd
        | '\\' :: ')' :: _ => item 1 .lineEnd
        | '\\' :: '|' :: _ => item 1 .lineEnd
        | _ => item 1 (.one '$')
    | c :: _ =>
      if style.extended && c == '|' then pure done
      else if style.extended && c == ')' then
        if depth == 0 then item 1 (.one ')') else pure done
      else if style.extended && c == '(' then
        advance 1
        let atom ← group fuel style depth
        let atom ← repeated fuel style atom
        sequence fuel style depth false (.seq done atom)
      else if style.extended && (c == '+' || c == '?') && start then item 1 .empty
      else item 1 (.one c)

def group : Nat → RegexStyle → Nat → RegexRead Regex
  | 0, _, _ => pure .empty
  | fuel + 1, style, depth => do
    let n := (← get).groups + 1
    modify fun s => { s with groups := n }
    let body ← choice fuel style (depth + 1)
    match style.extended, ← left with
    | true, ')' :: _ =>
      advance 1
      modify fun s => { s with closed := n :: s.closed }
      pure (.group n body)
    | false, '\\' :: ')' :: _ =>
      advance 2
      modify fun s => { s with closed := n :: s.closed }
      pure (.group n body)
    | _, _ => throw .unmatchedParen

/-- An expression with the signs of repetition after it. -/
def repeated : Nat → RegexStyle → Regex → RegexRead Regex
  | 0, _, atom => pure atom
  | fuel + 1, style, atom => do
    match style.extended, ← left with
    | _, '*' :: _ =>
      advance 1
      repeated fuel style (.times atom 0 none)
    | true, '+' :: _ =>
      advance 1
      repeated fuel style (.times atom 1 none)
    | true, '?' :: _ =>
      advance 1
      repeated fuel style (.times atom 0 (some 1))
    | true, '\x7b' :: r =>
      if style.looseBraces && !hasBounds r then pure atom
      else
        advance 1
        let (least, most) ← bounds style
        repeated fuel style (.times atom least most)
    | false, '\\' :: '+' :: _ =>
      advance 2
      repeated fuel style (.times atom 1 none)
    | false, '\\' :: '?' :: _ =>
      advance 2
      repeated fuel style (.times atom 0 (some 1))
    | false, '\\' :: '\x7b' :: _ =>
      advance 2
      let (least, most) ← bounds style
      repeated fuel style (.times atom least most)
    | _, _ => pure atom

end

end RegexRead

def Regex.parse (style : RegexStyle) (s : List Char) : Except RegexError Regex :=
  match RegexRead.choice (6 * s.length + 12) style 0 { rest := s } with
  | .ok r t => if t.rest.isEmpty then .ok r else .error .unmatchedCloseParen
  | .error e _ => .error e

/-- A place in a text, and the groups matched so far, each from where to where. -/
structure Place where
  pos : Nat
  groups : List (Nat × Nat × Nat) := []

def mergePlaces (seen : List Place) (new : List Place) : List Place :=
  if seen.isEmpty then new
  else seen ++ new.filter fun p => !seen.any (·.pos == p.pos)

def isWordChar (c : Char) : Bool := c.isAlphanum || c == '_'

def sameChar (ignoreCase : Bool) (a b : Char) : Bool :=
  a == b || (ignoreCase && a.toLower == b.toLower)

def wordsAround (text : Array Char) (pos : Nat) : Bool × Bool :=
  ((if pos == 0 then none else text[pos - 1]?).any isWordChar, (text[pos]?).any isWordChar)

/-- What an expression asks of a character, if it stands for exactly one. -/
def Regex.charTest? (ignoreCase : Bool) : Regex → Option (Char → Bool)
  | .one c => some fun d => sameChar ignoreCase c d
  | .any => some fun d => d.toNat < 0x10FF00
  | .set negated ms => some fun d =>
      (ms.any (SetMember.holds d) ||
        (ignoreCase && (ms.any (SetMember.holds d.toLower) || ms.any (SetMember.holds d.toUpper)))) != negated
  | _ => none

/-- How many characters from a position on pass a test, at most `n`. -/
def runLength (text : Array Char) (test : Char → Bool) : Nat → Nat → Nat → Nat
  | 0, _, k => k
  | n + 1, pos, k =>
    match text[pos]? with
    | some c => if test c then runLength text test n (pos + 1) (k + 1) else k
    | none => k

/-- The places that an expression leads to from some places, the preferred ones first. -/
def Regex.advance (ignoreCase : Bool) (text : Array Char) : Regex → List Place → List Place
  | .empty, ps => ps
  | .one c, ps => step ps fun d => sameChar ignoreCase c d
  | .any, ps => step ps (((Regex.any).charTest? ignoreCase).getD fun _ => false)
  | .set negated ms, ps => step ps (((Regex.set negated ms).charTest? ignoreCase).getD fun _ => false)
  | .lineStart, ps => ps.filter fun p => p.pos == 0
  | .lineEnd, ps => ps.filter fun p => p.pos == text.size
  | .wordStart, ps => ps.filter fun p => wordsAround text p.pos == (false, true)
  | .wordEnd, ps => ps.filter fun p => wordsAround text p.pos == (true, false)
  | .wordEdge negated, ps => ps.filter fun p =>
      let (a, b) := wordsAround text p.pos
      (a != b) != negated
  | .group n body, ps => ps.foldl (fun out p =>
      mergePlaces out ((advance ignoreCase text body [p]).map fun q =>
        { q with groups := (n, p.pos, q.pos) :: q.groups.filter (·.1 != n) })) []
  | .backref n, ps => ps.filterMap fun p => do
      let (_, a, b) ← p.groups.find? (·.1 == n)
      let len := b - a
      let same := (List.range len).all fun i =>
        match text[a + i]?, text[p.pos + i]? with
        | some x, some y => sameChar ignoreCase x y
        | _, _ => false
      if same then some { p with pos := p.pos + len } else none
  | .seq a b, ps => advance ignoreCase text b (advance ignoreCase text a ps)
  | .alt a b, ps => ps.foldl (fun out p =>
      mergePlaces (mergePlaces out (advance ignoreCase text a [p])) (advance ignoreCase text b [p])) []
  | .times body least most, ps =>
      let once := advance ignoreCase text body
      match body.charTest? ignoreCase with
      | some test =>
        let bound := most.getD (text.size + 1)
        ps.foldl (fun out p =>
          let k := runLength text test bound p.pos 0
          if k < least then out
          else
            let ends := (List.range (k + 1 - least)).map fun i => { p with pos := p.pos + k - i }
            mergePlaces out ends) []
      | none =>
      let required := (List.range least).foldl (fun ps _ => once ps) ps
      let rounds := match most with
        | some m => m - least
        | none => text.size + 1
      required.foldl (fun out p => mergePlaces out (more once rounds [p] [p])) []
where
  step (ps : List Place) (test : Char → Bool) : List Place :=
    ps.filterMap fun p =>
      match text[p.pos]? with
      | some d => if test d then some { p with pos := p.pos + 1 } else none
      | none => none
  more (once : List Place → List Place) : Nat → List Place → List Place → List Place
    | 0, _, seen => seen
    | n + 1, front, seen =>
      let new := (once front).filter fun p => !seen.any (·.pos == p.pos)
      if new.isEmpty then seen else more once n new (new ++ seen)

/-- Where the longest match from a position ends, with its groups. -/
def Regex.matchAt (r : Regex) (ignoreCase : Bool) (text : Array Char) (start : Nat) : Option Place :=
  (r.advance ignoreCase text [⟨start, []⟩]).foldl (fun best p =>
    match best with
    | none => some p
    | some b => if b.pos < p.pos then some p else some b) none

/-- The first match from a position on, at one of `n` positions: where it starts, and where it ends with its
groups. -/
def Regex.searchFrom (r : Regex) (ignoreCase : Bool) (text : Array Char) : Nat → Nat → Option (Nat × Place)
  | 0, _ => none
  | n + 1, start =>
    match r.matchAt ignoreCase text start with
    | some p => some (start, p)
    | none => r.searchFrom ignoreCase text n (start + 1)

def Regex.search (r : Regex) (ignoreCase : Bool) (text : Array Char) (start : Nat) :
    Option (Nat × Place) :=
  r.searchFrom ignoreCase text (text.size + 1 - start) start

end ShapeSearch.Command.Tool
